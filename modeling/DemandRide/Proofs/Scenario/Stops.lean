import DemandRide.Proofs.Scenario
import DemandRide.Proofs.Service.Rides
import DemandRide.Proofs.Stops.Area

/-! The stops of a scenario. Which stops travellers may use is told by the scheme, the service
area and the walking distance alone; where travellers ride, they board and alight at stops that
qualify, and where they do not, they walk all the way. -/
namespace DemandRide

variable {α : Type} [Plane α] {scenario : Scenario α} {network : Network α}

namespace Scenario

/-- The stops that the scheme of a scenario provides, near or far. -/
inductive Designates (scenario : Scenario α) (network : Network α) : Stop α → Prop where
  /-- A listed stop, which has to lie inside the service area if there is one. -/
  | listed {stop : Stop α} (hScheme : scenario.service.scheme = .stopBased)
      (hListed : stop ∈ scenario.stops)
      (hInside : ∀ area ∈ scenario.area?, area.contains stop.point) :
      Designates scenario network stop
  /-- The end of a link that ends inside the service area. -/
  | derived {area : Area α} {link : Link α} {point : Point α}
      (hScheme : scenario.service.scheme = .serviceAreaBased)
      (hArea : scenario.area? = some area) (hLink : network.link? link.id = some link)
      (hEnd : network.node? link.target = some point) (hInside : area.contains point) :
      Designates scenario network ⟨⟨link.id.text⟩, link.id, point⟩

/-- Whether a stop is provided and within walking distance of a point. -/
def Qualifies (scenario : Scenario α) (network : Network α) (point : Point α) (stop : Stop α) :
    Prop :=
  scenario.Designates network stop ∧
    Scalar.le (stop.point.squaredDistance point)
      (scenario.service.maxWalkDistance * scenario.service.maxWalkDistance)

/-- Which stops are chosen for a request, if any. -/
def Chooses (scenario : Scenario α) (network : Network α) (request : TripRequest α)
    (pair : StopPair α) : Prop :=
  ∃ finder, ((scenario.stopFinder network).run ()).result = .ok (some finder) ∧
    ((finder.find request.origin request.destination).run ()).result = .ok pair

/-- The stops that a scenario searches. -/
def offered (scenario : Scenario α) (network : Network α) : List (Stop α) :=
  match scenario.service.scheme, scenario.area? with
  | .stopBased, some area => area.stopsInside scenario.stops
  | .stopBased, none => scenario.stops
  | .serviceAreaBased, some area => area.deriveStops network
  | _, _ => []

/-- The index of the stops that a scenario searches. -/
def index (scenario : Scenario α) (network : Network α) : StopIndex α :=
  .ofStops (scenario.offered network) scenario.service.maxWalkDistance

/-- What is searched is what the scheme provides. -/
theorem mem_offered_iff (built : network.Built) {stop : Stop α} :
    stop ∈ scenario.offered network ↔ scenario.Designates network stop := by
  unfold offered
  constructor
  · intro hOffered
    split at hOffered
    case h_1 area hScheme hArea =>
      obtain ⟨hListed, hInside⟩ := List.mem_filter.mp hOffered
      refine .listed hScheme hListed fun other hOther => ?_
      obtain rfl := Option.some.inj (hArea.symm.trans hOther)
      exact hInside
    case h_2 hScheme hArea =>
      refine .listed hScheme hOffered fun area hThere => ?_
      cases hArea.symm.trans hThere
    case h_3 area hScheme hArea =>
      obtain ⟨link, point, hLink, hEnd, hInside, rfl⟩ := (Area.mem_deriveStops_iff built).mp hOffered
      exact .derived hScheme hArea hLink hEnd hInside
    case h_4 => cases hOffered
  · intro hDesignated
    cases hDesignated with
    | listed hScheme hListed hInside =>
        rw [hScheme]
        cases hArea : scenario.area? with
        | none => exact hListed
        | some area => exact List.mem_filter.mpr ⟨hListed, hInside area hArea⟩
    | derived hScheme hArea hLink hEnd hInside =>
        rw [hScheme, hArea]
        exact (Area.mem_deriveStops_iff built).mpr ⟨_, _, hLink, hEnd, hInside, rfl⟩

/-- A stop is searched and in reach exactly if it qualifies. -/
theorem qualifies_iff (built : network.Built) {point : Point α} {stop : Stop α} :
    scenario.Qualifies network point stop ↔
      stop ∈ (scenario.index network).stops ∧ (scenario.index network).reaches point stop := by
  have hMem : stop ∈ (scenario.index network).stops ↔ stop ∈ scenario.offered network :=
    (Tiling.searchOrder_perm (scenario.offered network)).mem_iff
  rw [hMem, mem_offered_iff built]
  rfl

/-- Among stops that qualify one is chosen. -/
theorem qualifies_of_nearest? (built : network.Built) {point : Point α} {stop : Stop α}
    (h : (scenario.index network).nearest? point = some stop) :
    scenario.Qualifies network point stop :=
  (qualifies_iff built).mpr (StopIndex.mem_of_nearest? h)

theorem exists_nearest?_of_qualifies (built : network.Built) {point : Point α}
    (h : ∃ stop, scenario.Qualifies network point stop) :
    ∃ stop, (scenario.index network).nearest? point = some stop := by
  obtain ⟨stop, hStop⟩ := h
  exact StopIndex.exists_nearest?_iff.mpr ⟨stop, (qualifies_iff built).mp hStop⟩

/-- Where the scheme uses stops, the finder of a scenario chooses from its index. -/
theorem finder_of_stopFinder {stops : Option (StopFinder α)}
    (hScheme : scenario.service.scheme.usesStops)
    (hFinder : ((scenario.stopFinder network).run ()).result = .ok stops) :
    stops = some (.nearest network (scenario.index network)) := by
  unfold stopFinder at hFinder
  unfold index offered
  split at hFinder
  case h_1 hDoors => simp [hDoors, OperatingScheme.usesStops] at hScheme
  case h_2 hStops hArea =>
    rw [hStops, hArea]
    exact (Except.ok.inj hFinder).symm
  case h_3 hStops hArea =>
    rw [hStops, hArea]
    exact (Except.ok.inj hFinder).symm
  case h_4 hDerived hArea =>
    rw [hDerived, hArea]
    exact (Except.ok.inj hFinder).symm
  case h_5 => cases hFinder

/-- A scenario that is answered was built, opened and routed as a batch. -/
theorem service_of_runUnder {schedule : Schedule} {routed : List (RoutedTrip α)}
    (hRun : ((scenario.runUnder schedule).run ()).result = .ok routed) :
    ∃ network service, scenario.network.build = .ok network ∧
      ((scenario.openService network).run ()).result = .ok service ∧
      ((Batch.routeUnder ⟨service, scenario.checkPlans, scenario.workers⟩ (.freeSpeed network)
        Search.empty schedule scenario.requests).run ()).result = .ok routed := by
  unfold runUnder at hRun
  obtain ⟨network, hBuild, hRun⟩ := Session.result_bind_eq_ok_iff.mp hRun
  obtain ⟨_, -, hRun⟩ := Session.result_bind_eq_ok_iff.mp hRun
  obtain ⟨service, hOpen, hRun⟩ := Session.result_bind_eq_ok_iff.mp hRun
  exact ⟨network, service, (Session.mapError_eq_ok_iff _ _ _).mp hBuild, hOpen,
    (Session.mapError_eq_ok_iff _ _ _).mp hRun⟩

/-- Where the scheme uses stops, the service of a scenario takes its travellers to the stops of
the index. -/
theorem service_of_openService {service : Service α}
    (hScheme : scenario.service.scheme.usesStops)
    (hOpen : ((scenario.openService network).run ()).result = .ok service) :
    ((scenario.stopFinder network).run ()).result =
        .ok (some (.nearest network (scenario.index network))) ∧
      service = ⟨scenario.service, Teleport.walker network scenario.walk,
        .atStops (.nearest network (scenario.index network))⟩ := by
  unfold openService at hOpen
  obtain ⟨_, -, hOpen⟩ := Session.result_bind_eq_ok_iff.mp hOpen
  obtain ⟨stops, hFinder, hOpen⟩ := Session.result_bind_eq_ok_iff.mp hOpen
  obtain rfl := finder_of_stopFinder hScheme hFinder
  obtain ⟨-, hSettings, hWalker, ⟨hDoors, -⟩ | ⟨finder, -, hStops, hBoarding⟩⟩ :=
    Service.start_eq_ok_iff.mp ((Session.mapError_eq_ok_iff _ _ _).mp hOpen)
  · cases hScheme.symm.trans hDoors
  · obtain rfl := Option.some.inj hStops
    obtain ⟨settings, walker, boarding⟩ := service
    cases hSettings
    cases hWalker
    cases hBoarding
    exact ⟨hFinder, rfl⟩

end Scenario

/-- Nobody boards or alights in the course of a walk: the changes between its legs take no time,
and a stage lasts a second. -/
theorem Fallback.stage_not_mem_retag [OrderedScalar α] {network : Network α}
    {walk : WalkSettings α} {origin destination : Location α} {time : α}
    {elements : List (Element α)}
    (hWalk : Teleport.route network walk origin destination time = .ok elements)
    (settings : ServiceSettings α) (place : Location α) :
    Course.stage settings place ∉ retag settings elements := by
  intro hStage
  obtain ⟨element, hElement, hChange⟩ := List.mem_map.mp hStage
  obtain ⟨_, _, _, _, _, _, rfl⟩ | ⟨_, rfl⟩ := Teleport.mem_route hWalk hElement
  · cases hChange
  · have hLasting : (0 : α) = 1 :=
      Option.some.inj (congrArg Activity.maximumDuration (Element.activity.inj hChange))
    have hBelow := OrderedScalar.zero_lt_one (α := α)
    rw [hLasting, OrderedScalar.lt_irrefl] at hBelow
    cases hBelow

namespace Scenario

/-- What becomes of a request in a scenario whose travellers board at stops: where its places are,
the stops that are chosen for them, and whether and how its trip rides. -/
structure ServesAtStops (scenario : Scenario α) (network : Network α) (request : TripRequest α)
    (start goal : Point α) (pair : StopPair α) (trip : Trip α) : Prop where
  origin : network.resolve request.origin = .ok start
  destination : network.resolve request.destination = .ok goal
  chosen : scenario.Chooses network request pair
  /-- The trip rides exactly if there is a stop for either end and the stops that are chosen lie
  on different links. -/
  rides_iff : trip.rideLegs ≠ [] ↔
    (∃ stop, scenario.Qualifies network start stop) ∧
    (∃ stop, scenario.Qualifies network goal stop) ∧
    ∀ access ∈ pair.access, ∀ egress ∈ pair.egress, access.link ≠ egress.link
  /-- A trip that rides boards at a stop that qualifies for its origin and alights at one that
  qualifies for its destination. -/
  ridden : trip.rideLegs ≠ [] → ∃ access egress toStop ride fromStop,
    pair.access = some access ∧ pair.egress = some egress ∧
    scenario.Qualifies network start access ∧ scenario.Qualifies network goal egress ∧
    trip.elements = toStop ++ Course.stage scenario.service access.location ::
      .leg ride :: Course.stage scenario.service egress.location :: fromStop ∧
    trip.rideLegs = [ride] ∧ ride.startLink = access.link ∧ ride.endLink = egress.link
  /-- Any other trip is the walk from its origin to its destination. -/
  walked : trip.rideLegs = [] →
    (∃ walk, Teleport.route network scenario.walk request.origin request.destination
      request.departureTime = .ok walk ∧ trip.elements = Fallback.retag scenario.service walk) ∧
    ∀ place, Course.stage scenario.service place ∉ trip.elements

section Request

variable {request : TripRequest α} {pair : StopPair α} (built : network.Built)
  (hFinder : ((scenario.stopFinder network).run ()).result =
    .ok (some (.nearest network (scenario.index network))))
  (hPair : (((StopFinder.nearest network (scenario.index network)).find request.origin
    request.destination).run ()).result = .ok pair)

include built hFinder hPair

/-- A request is walked for want of stops to ride between. -/
theorem servesAtStops_walked [OrderedScalar α] {reason : FallbackReason} {walk : List (Element α)}
    (hChoice : ViaStops.choose pair = .walk reason)
    (hWalk : Teleport.route network scenario.walk request.origin request.destination
      request.departureTime = .ok walk) :
    ∃ start goal, ServesAtStops scenario network request start goal pair
      ((Course.walked walk).trip scenario.service request) := by
  have hNone : ((Course.walked walk).trip scenario.service request).rideLegs = [] :=
    Trip.rideLegs_of_onFoot (Fallback.onFoot_retag scenario.service
      (Teleport.onFoot_walker network scenario.walk _ _ _ request.traveller _ hWalk))
  obtain ⟨start, goal, hStart, hGoal, hChosen⟩ := StopFinder.result_nearest_eq_ok_iff.mp hPair
  have hNoRide : ¬((∃ stop, scenario.Qualifies network start stop) ∧
      (∃ stop, scenario.Qualifies network goal stop) ∧
      ∀ access ∈ pair.access, ∀ egress ∈ pair.egress, access.link ≠ egress.link) := by
    rintro ⟨hFrom, hTo, hLinks⟩
    obtain ⟨access, hAccess⟩ := exists_nearest?_of_qualifies built hFrom
    obtain ⟨egress, hEgress⟩ := exists_nearest?_of_qualifies built hTo
    subst hChosen
    have hRide : ViaStops.choose ⟨_, _⟩ = .ride access egress :=
      ViaStops.choose_eq_ride_iff.mpr ⟨hAccess, hEgress, hLinks access hAccess egress hEgress⟩
    cases hChoice.symm.trans hRide
  exact ⟨start, goal, hStart, hGoal, ⟨_, hFinder, hPair⟩,
    iff_of_false (not_not_intro hNone) hNoRide, fun hRides => absurd hNone hRides,
    fun _ => ⟨⟨walk, hWalk, rfl⟩, Fallback.stage_not_mem_retag hWalk scenario.service⟩⟩

/-- A request is ridden between the stops that are chosen for it. -/
theorem servesAtStops_ridden {access egress : Stop α} {toStop fromStop : List (Element α)}
    {ride : Leg α} (hChoice : ViaStops.choose pair = .ride access egress)
    (hStart : ride.startLink = access.link) (hEnd : ride.endLink = egress.link)
    (hRideLegs : ((Course.ridden (some ⟨toStop, access.location⟩) ride
      (some ⟨fromStop, egress.location⟩)).trip scenario.service request).rideLegs = [ride]) :
    ∃ start goal, ServesAtStops scenario network request start goal pair
      ((Course.ridden (some ⟨toStop, access.location⟩) ride
        (some ⟨fromStop, egress.location⟩)).trip scenario.service request) := by
  obtain ⟨start, goal, hFrom, hTo, rfl⟩ := StopFinder.result_nearest_eq_ok_iff.mp hPair
  obtain ⟨hAccess, hEgress, hLinks⟩ := ViaStops.choose_eq_ride_iff.mp hChoice
  have hBoards := qualifies_of_nearest? built hAccess
  have hAlights := qualifies_of_nearest? built hEgress
  have hRides : ((Course.ridden (some ⟨toStop, access.location⟩) ride
      (some ⟨fromStop, egress.location⟩)).trip scenario.service request).rideLegs ≠ [] := by
    rw [hRideLegs]
    exact List.cons_ne_nil _ _
  refine ⟨start, goal, hFrom, hTo, ⟨_, hFinder, hPair⟩, ?_, fun _ => ?_,
    fun hNone => absurd hNone hRides⟩
  · refine iff_of_true hRides ⟨⟨access, hBoards⟩, ⟨egress, hAlights⟩, ?_⟩
    intro first hFirst last hLast
    obtain rfl := Option.some.inj (hAccess.symm.trans hFirst)
    obtain rfl := Option.some.inj (hEgress.symm.trans hLast)
    exact hLinks
  · exact ⟨access, egress, toStop, ride, fromStop, hAccess, hEgress, hBoards, hAlights,
      Course.elements_ridden, hRideLegs, hStart, hEnd⟩

end Request

/-- Whichever course a trip by way of the stops of a scenario takes, it serves the request. -/
theorem servesAtStops_of_takes [OrderedScalar α] (built : network.Built) {request : TripRequest α}
    {s : Search α} {course : Course α}
    (hFinder : ((scenario.stopFinder network).run ()).result =
      .ok (some (.nearest network (scenario.index network))))
    (hTakes : ViaStops.Takes scenario.service (Teleport.walker network scenario.walk)
      (.nearest network (scenario.index network)) (.freeSpeed network) request s course) :
    ∃ start goal pair, ServesAtStops scenario network request start goal pair
      (course.trip scenario.service request) := by
  have hOnFoot : ∀ walk ∈ course.walks, OnFoot walk := by
    intro walk hWalk
    obtain ⟨_, _, _, hAnswer⟩ := hTakes.exists_walk walk hWalk
    exact Teleport.onFoot_walker network scenario.walk _ _ _ _ _ hAnswer
  have hRideLegs : (course.trip scenario.service request).rideLegs = course.ride?.toList :=
    Course.rideLegs_trip hOnFoot hTakes.rides.isRide
  cases hTakes with
  | walked _ hPair hChoice hWalk =>
      obtain ⟨start, goal, hServes⟩ := servesAtStops_walked built hFinder hPair hChoice hWalk
      exact ⟨start, goal, _, hServes⟩
  | ridden _ hPair hChoice _ _ hRide _ =>
      subst hRide
      obtain ⟨start, goal, hServes⟩ :=
        servesAtStops_ridden built hFinder hPair hChoice rfl rfl hRideLegs
      exact ⟨start, goal, _, hServes⟩

end Scenario

/-- The same trip begun far from either stop. -/
def remoteRequest : TripRequest Float :=
  { southboundRequest with origin := ⟨⟨"a"⟩, some ⟨0, 9000⟩, none⟩ }

/-- A service between the stops on the two streets, both of them inside its area. -/
def streetScenario : Scenario Float where
  service := { ServiceSettings.default with scheme := .stopBased }
  walk := .default
  network := streets
  stops := [northStop, southStop]
  serviceArea := some [[⟨-20, -20⟩, ⟨20, -20⟩, ⟨20, 20⟩, ⟨-20, 20⟩]]
  requests := [southboundRequest, remoteRequest]
  checkPlans := true
  workers := none

end DemandRide
