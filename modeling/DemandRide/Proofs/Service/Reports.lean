import DemandRide.Proofs.Service.Queries

/-! What is reported of trips that fall back to walking. Whether a request falls back is told
by its links or by the stops found for it, before anything is walked or ridden, and that is when
it is reported: so a report precedes the walk, and is left where the walk fails. Pathfinders and
stop finders are assumed to report nothing of their own; nothing is assumed of walkers. -/
namespace DemandRide

open Session

variable {σ α : Type}

/-- The reports of fallbacks that a computation left, in their order. -/
def Outcome.reports {ε β : Type} (outcome : Outcome σ (Notice α) ε β) :
    List (TripRequest α × FallbackReason) :=
  outcome.notices.filterMap Notice.fallback?

/-- A pathfinder that reports no fallbacks. -/
def Pathfinder.Silent (finder : Pathfinder σ α) : Prop :=
  ∀ query, (finder.find query).Silent Notice.fallback?

/-- Stops are found, where they are used, without a report of fallbacks. -/
def Boarding.Silent (boarding : Boarding α) : Prop :=
  ∀ stops, boarding = .atStops stops → ∀ origin destination,
    (stops.find origin destination).Silent Notice.fallback?

theorem Pathfinder.silent_freeSpeed [Scalar α] (network : Network α) :
    (freeSpeed network).Silent := by
  intro query
  have hKnown (id : LinkId) : (known network id).Silent Notice.fallback? := by
    unfold known
    split
    · exact .pure _
    · exact .fail _
  refine (hKnown _).bind fun origin => (hKnown _).bind fun destination => ?_
  split
  · exact .pure _
  · refine Session.Silent.get.bind fun used => (Session.Silent.put _).bind fun _ => ?_
    split
    · exact (Session.Silent.note rfl).bind fun _ => .pure _
    · exact .fail _

theorem Boarding.silent_anyLink : (anyLink : Boarding α).Silent := nofun

theorem Boarding.silent_nearest [Scalar α] (network : Network α) (index : StopIndex α) :
    (atStops (.nearest network index)).Silent := by
  rintro _ ⟨⟩ origin destination
  have hSeek (location : Location α) :
      (StopFinder.seek index network location).Silent Notice.fallback? :=
    (Session.Silent.ofExcept _).mapError _ |>.bind fun _ =>
      (Session.Silent.note rfl).bind fun _ => .pure _
  exact (hSeek origin).bind fun access => (hSeek destination).bind fun egress => .pure _

/-- Why the stops found for a trip are not ridden between. A missing boarding stop comes before
a missing alighting stop, and both come before stops on one link. -/
inductive StopPair.Bars (pair : StopPair α) : FallbackReason → Prop where
  | noAccess (hAccess : pair.access = none) : Bars pair .noAccessStop
  | noEgress {access : Stop α} (hAccess : pair.access = some access)
      (hEgress : pair.egress = none) : Bars pair .noEgressStop
  | sameLink {access egress : Stop α} (hAccess : pair.access = some access)
      (hEgress : pair.egress = some egress) (hLink : access.link = egress.link) :
      Bars pair .sameStopLink

theorem ViaStops.choose_eq_walk_iff {pair : StopPair α} {reason : FallbackReason} :
    choose pair = .walk reason ↔ pair.Bars reason := by
  constructor
  · intro hChoice
    obtain ⟨first, last⟩ := pair
    cases first with
    | none =>
        cases hChoice
        exact .noAccess rfl
    | some access =>
        cases last with
        | none =>
            cases hChoice
            exact .noEgress rfl rfl
        | some egress =>
            by_cases hLink : access.link = egress.link
            · simp only [choose, if_pos hLink] at hChoice
              cases hChoice
              exact .sameLink rfl rfl hLink
            · simp only [choose, if_neg hLink] at hChoice
              cases hChoice
  · rintro (hAccess | ⟨hAccess, hEgress⟩ | ⟨hAccess, hEgress, hLink⟩)
    · simp [choose, hAccess]
    · simp [choose, hAccess, hEgress]
    · simp [choose, hAccess, hEgress, hLink]

namespace Service

/-- Why a request is walked. -/
inductive FallsBack (service : Service α) (request : TripRequest α) :
    FallbackReason → Prop where
  /-- From door to door, if origin and destination are on one link. -/
  | doors (hBoarding : service.boarding = .anyLink)
      (hLink : request.origin.link = request.destination.link) :
      FallsBack service request .sameLink
  /-- By way of stops, for what bars those found for the trip. -/
  | stops {finder : StopFinder α} {pair : StopPair α} {reason : FallbackReason}
      (hBoarding : service.boarding = .atStops finder)
      (hPair : ((finder.find request.origin request.destination).run ()).result = .ok pair)
      (hBars : pair.Bars reason) :
      FallsBack service request reason

/-- A request that is offered a ride does not fall back. -/
theorem FallsBack.not_offers {service : Service α} {request : TripRequest α}
    {reason : FallbackReason} (h : service.FallsBack request reason) (a b : LinkId) :
    ¬service.Offers request a b := by
  intro hOffers
  cases h with
  | doors hBoarding hLink =>
      cases hOffers with
      | doors _ hDiffer => exact hDiffer hLink
      | stops hStops => cases hBoarding.symm.trans hStops
  | stops hBoarding hPair hBars =>
      obtain ⟨_, _, hRide⟩ := hOffers.exists_choice hBoarding hPair
      cases hRide.symm.trans (ViaStops.choose_eq_walk_iff.mpr hBars)

variable [Scalar α]

/-- The reason for which a request is walked, if it passes its check and falls back. -/
def fallback? (service : Service α) (request : TripRequest α) : Option FallbackReason :=
  match request.validate, service.boarding with
  | .error _, _ => none
  | .ok (), .anyLink =>
    if request.origin.link = request.destination.link then some .sameLink else none
  | .ok (), .atStops stops =>
    match ((stops.find request.origin request.destination).run ()).result with
    | .error _ => none
    | .ok pair =>
      match ViaStops.choose pair with
      | .walk reason => some reason
      | .ride _ _ => none

theorem fallback?_eq_some_iff {service : Service α} {request : TripRequest α}
    {reason : FallbackReason} :
    service.fallback? request = some reason ↔
      request.validate = .ok () ∧ service.FallsBack request reason := by
  constructor
  · intro h
    unfold fallback? at h
    split at h
    case h_1 => cases h
    case h_2 hValid hBoarding =>
      refine ⟨hValid, ?_⟩
      split at h
      · cases h
        exact .doors hBoarding ‹_›
      · cases h
    case h_3 stops hValid hBoarding =>
      refine ⟨hValid, ?_⟩
      split at h
      · cases h
      · rename_i pair hPair
        split at h
        · rename_i hChoice
          cases h
          exact .stops hBoarding hPair (ViaStops.choose_eq_walk_iff.mp hChoice)
        · cases h
  · rintro ⟨hValid, hReason⟩
    cases hReason with
    | doors hBoarding hLink => simp [fallback?, hValid, hBoarding, hLink]
    | stops hBoarding hPair hBars =>
        simp [fallback?, hValid, hBoarding, hPair, ViaStops.choose_eq_walk_iff.mpr hBars]

end Service

theorem Fallback.silent_walk (walker : Walker α) (request : TripRequest α)
    (origin destination : Location α) (time : α) :
    (walk walker request origin destination time : Session σ _ _ _).Silent Notice.fallback? :=
  (Session.Silent.ofExcept _).mapError _

/-- Without its report a fallback leaves no notice. -/
theorem Fallback.without_reports {ε β : Type} (settings : ServiceSettings α)
    (request : TripRequest α) (reason : FallbackReason) (result : Except ε β) (s : σ) :
    (⟨result, s, reports settings request reason⟩ : Outcome σ (Notice α) ε β).without
      Notice.fallback? = ⟨result, s, []⟩ := by
  unfold reports
  split <;> rfl

theorem Fallback.filterMap_reports (settings : ServiceSettings α) (request : TripRequest α)
    (reason : FallbackReason) :
    (reports settings request reason).filterMap Notice.fallback? =
      if settings.reportsFallbacks then [(request, reason)] else [] := by
  unfold reports
  split <;> rfl

section Ride

variable [Scalar α] {settings : ServiceSettings α} {walker : Walker α}
  {finder : Pathfinder σ α} {request : TripRequest α} (hFinder : finder.Silent)

include hFinder

theorem Ride.silent_build (query : PathQuery α) :
    (build settings finder query).Silent Notice.fallback? :=
  ((hFinder query).mapError _).bind fun _ => (Session.Silent.note rfl).bind fun _ => .pure _

theorem DoorToDoor.silent_ride :
    (ride settings walker finder request).Silent Notice.fallback? := by
  have hBefore : (beforeRide settings walker request : Session σ _ _ _).Silent
      Notice.fallback? := fun s => by
    rw [run_beforeRide]
    rfl
  have hAfter (time : α) : (afterRide settings walker request time : Session σ _ _ _).Silent
      Notice.fallback? := fun s => by
    rw [run_afterRide]
    rfl
  refine hBefore.bind fun before => (Ride.silent_build hFinder _).bind fun ride => ?_
  exact (hAfter _).bind fun after => (Session.Silent.note rfl).bind fun _ => .pure _

theorem ViaStops.silent_ride (access egress : Stop α) :
    (ride settings walker finder request access egress).Silent Notice.fallback? := by
  refine (Fallback.silent_walk _ _ _ _ _).bind fun toStop => ?_
  refine (Ride.silent_build hFinder _).bind fun ride => ?_
  exact (Fallback.silent_walk _ _ _ _ _).bind fun fromStop =>
    (Session.Silent.note rfl).bind fun _ => .pure _

end Ride

section Walked

variable [Scalar α] (settings : ServiceSettings α) (walker : Walker α) (finder : Pathfinder σ α)
  {request : TripRequest α} (hValid : request.validate = .ok ())

include hValid

/-- Within a link the whole walk is told as one leg. -/
theorem DoorToDoor.result_route_of_sameLink
    (hLink : request.origin.link = request.destination.link) (s : σ) :
    ((DoorToDoor.route settings walker finder request).run s).result =
      ((walker.walk request.origin request.destination request.departureTime
        request.traveller).map fun walk =>
          (Course.collapsed walk).trip settings request).mapError .network := by
  simp only [DoorToDoor.route, result_bind, run_mapError, run_ofExcept, hValid, mapError_ok,
    ok_bind, if_pos hLink, Fallback.run_collapsed]

/-- Where the stops found bar a ride the whole walk is kept. -/
theorem ViaStops.result_route_of_bars (stops : StopFinder α) {pair : StopPair α}
    {reason : FallbackReason}
    (hPair : ((stops.find request.origin request.destination).run ()).result = .ok pair)
    (hBars : pair.Bars reason) (s : σ) :
    ((ViaStops.route settings walker stops finder request).run s).result =
      ((walker.walk request.origin request.destination request.departureTime
        request.traveller).map fun walk =>
          (Course.walked walk).trip settings request).mapError .network := by
  simp only [ViaStops.route, result_bind, run_mapError, run_ofExcept, hValid, mapError_ok,
    ok_bind, run_stateless, hPair, choose_eq_walk_iff.mpr hBars, Fallback.run_retagged]

end Walked

namespace Service

variable [Scalar α] {service : Service α} {finder : Pathfinder σ α}

/-- The report that is made for a request, if the service makes any. -/
def reports (service : Service α) (request : TripRequest α) :
    List (TripRequest α × FallbackReason) :=
  if service.settings.reportsFallbacks then
    ((service.fallback? request).map (request, ·)).toList
  else []

section Route

variable (hFinder : finder.Silent) (hSilent : service.boarding.Silent) {request : TripRequest α}
  {s : σ}

include hFinder

theorem reports_doorToDoor (hBoarding : service.boarding = .anyLink) :
    ((DoorToDoor.route service.settings service.walker finder request).run s).reports =
      service.reports request := by
  have hCheck : ((ofExcept request.validate).mapError RoutingError.invalidRequest :
      Session σ (Notice α) _ _).Silent Notice.fallback? := (Session.Silent.ofExcept _).mapError _
  unfold DoorToDoor.route Outcome.reports
  cases hValid : request.validate with
  | error fault =>
      rw [hValid] at hCheck
      rw [hCheck.told_bind_of_error rfl]
      simp [reports, fallback?, hValid]
  | ok valid =>
      rw [hValid] at hCheck
      rw [hCheck.told_bind_of_ok rfl]
      by_cases hLink : request.origin.link = request.destination.link
      · rw [if_pos hLink, Fallback.run_collapsed, Fallback.filterMap_reports]
        simp [reports, fallback?, hValid, hBoarding, hLink]
      · rw [if_neg hLink, DoorToDoor.silent_ride hFinder]
        simp [reports, fallback?, hValid, hBoarding, hLink]

include hSilent

theorem reports_viaStops {stops : StopFinder α} (hBoarding : service.boarding = .atStops stops) :
    ((ViaStops.route service.settings service.walker stops finder request).run s).reports =
      service.reports request := by
  have hCheck : ((ofExcept request.validate).mapError RoutingError.invalidRequest :
      Session σ (Notice α) _ _).Silent Notice.fallback? := (Session.Silent.ofExcept _).mapError _
  have hFind : ((stops.find request.origin request.destination).stateless :
      Session σ (Notice α) _ _).Silent Notice.fallback? :=
    (hSilent stops hBoarding request.origin request.destination).stateless
  unfold ViaStops.route Outcome.reports
  cases hValid : request.validate with
  | error fault =>
      rw [hValid] at hCheck
      rw [hCheck.told_bind_of_error rfl]
      simp [reports, fallback?, hValid]
  | ok valid =>
      rw [hValid] at hCheck
      rw [hCheck.told_bind_of_ok rfl]
      cases hPair : ((stops.find request.origin request.destination).run ()).result with
      | error e =>
          rw [hFind.told_bind_of_error hPair]
          simp [reports, fallback?, hValid, hBoarding, hPair]
      | ok pair =>
          rw [hFind.told_bind_of_ok hPair]
          cases hChoice : ViaStops.choose pair with
          | walk reason =>
              simp only [Fallback.run_retagged, Fallback.filterMap_reports]
              simp [reports, fallback?, hValid, hBoarding, hPair, hChoice]
          | ride access egress =>
              simp only [ViaStops.silent_ride hFinder access egress _]
              simp [reports, fallback?, hValid, hBoarding, hPair, hChoice]

/-- Whatever comes of a request, it is reported if and only if it falls back. -/
theorem reports_route (request : TripRequest α) (s : σ) :
    ((service.route finder request).run s).reports = service.reports request := by
  unfold route
  cases hBoarding : service.boarding with
  | anyLink => exact reports_doorToDoor hFinder hBoarding
  | atStops stops => exact reports_viaStops hFinder hSilent hBoarding

end Route

/-- A request that falls back comes to what its walk comes to, told in one of two ways. -/
theorem result_route_of_fallsBack {request : TripRequest α} {reason : FallbackReason}
    (hValid : request.validate = .ok ()) (hReason : service.FallsBack request reason) (s : σ) :
    ∃ tell : List (Element α) → Course α, (tell = .collapsed ∨ tell = .walked) ∧
      ((service.route finder request).run s).result =
        ((service.walker.walk request.origin request.destination request.departureTime
          request.traveller).map fun walk =>
            (tell walk).trip service.settings request).mapError .network := by
  cases hReason with
  | doors hBoarding hLink =>
      refine ⟨.collapsed, .inl rfl, ?_⟩
      rw [route, hBoarding]
      exact DoorToDoor.result_route_of_sameLink _ _ _ hValid hLink s
  | stops hBoarding hPair hBars =>
      refine ⟨.walked, .inr rfl, ?_⟩
      rw [route, hBoarding]
      exact ViaStops.result_route_of_bars _ _ _ hValid _ hPair hBars s

/-- The service with its reports turned on or off. -/
def reporting (service : Service α) (on : Bool) : Service α :=
  { service with settings := { service.settings with reportsFallbacks := on } }

/-- Whether fallbacks are reported shows in the reports alone. -/
theorem without_route_reporting (on : Bool) (request : TripRequest α) (s : σ) :
    (((service.reporting on).route finder request).run s).without Notice.fallback? =
      ((service.route finder request).run s).without Notice.fallback? := by
  obtain ⟨settings, walker, boarding⟩ := service
  cases boarding with
  | anyLink =>
      refine without_run_bind_congr (fun _ t => ?_) s
      by_cases hLink : request.origin.link = request.destination.link
      · -- The leg that stands for the walk is named after the mode alone.
        simp only [if_pos hLink, Fallback.run_collapsed, Fallback.without_reports]
        rfl
      · simp only [if_neg hLink]
        rfl
  | atStops stops =>
      refine without_run_bind_congr (fun _ t => without_run_bind_congr (fun pair u => ?_) t) s
      cases hChoice : ViaStops.choose pair with
      | walk reason =>
          simp only [Fallback.run_retagged, Fallback.without_reports]
          rfl
      | ride access egress => rfl

theorem run_route_reporting (hFinder : finder.Silent) (hSilent : service.boarding.Silent)
    (request : TripRequest α) (s : σ) :
    ((service.reporting false).route finder request).run s =
      (((service.reporting true).route finder request).run s).without Notice.fallback? := by
  have hSilent : (service.reporting false).boarding.Silent := hSilent
  have hNone : (((service.reporting false).route finder request).run s).reports = [] :=
    reports_route hFinder hSilent request s
  rw [without_route_reporting true, ← without_route_reporting false,
    Outcome.without_of_told_eq_nil hNone]

theorem routeEach_reporting (hFinder : finder.Silent) (hSilent : service.boarding.Silent) (s : σ)
    (requests : List (TripRequest α)) :
    (service.reporting false).routeEach finder s requests =
      ((service.reporting true).routeEach finder s requests).map
        (Outcome.without Notice.fallback?) := by
  induction requests generalizing s with
  | nil => rfl
  | cons request rest ih =>
      rw [routeEach, routeEach, List.map_cons, run_route_reporting hFinder hSilent, ih]
      rfl

/-- The reports of a run are those of its requests, in their order. -/
theorem flatMap_reports_routeEach (hFinder : finder.Silent) (hSilent : service.boarding.Silent)
    (s : σ) (requests : List (TripRequest α)) :
    (service.routeEach finder s requests).flatMap Outcome.reports =
      requests.flatMap service.reports := by
  induction requests generalizing s with
  | nil => rfl
  | cons request rest ih =>
      rw [routeEach, List.flatMap_cons, List.flatMap_cons, reports_route hFinder hSilent, ih]

theorem fallback?_of_invalid {request : TripRequest α} {fault : RequestFault α}
    (hFault : request.validate = .error fault) : service.fallback? request = none := by
  simp [fallback?, hFault]

/-- What is offered a ride does not fall back, whether the ride comes about or not. -/
theorem fallback?_of_offers {request : TripRequest α} {a b : LinkId}
    (hOffers : service.Offers request a b) : service.fallback? request = none :=
  Option.eq_none_iff_forall_ne_some.mpr fun _ hReason =>
    (fallback?_eq_some_iff.mp hReason).2.not_offers a b hOffers

theorem reports_ne_nil_iff {request : TripRequest α} :
    service.reports request ≠ [] ↔
      service.settings.reportsFallbacks = true ∧
        ∃ reason, service.fallback? request = some reason := by
  unfold reports
  cases service.settings.reportsFallbacks <;> cases service.fallback? request <;> simp

theorem reports_of_fallback?_eq_none {request : TripRequest α}
    (h : service.fallback? request = none) : service.reports request = [] := by
  simp [reports, h]

/-- Among walkers on foot, a trip that rides was offered its ride. -/
theorem exists_offers_of_rideLegs {request : TripRequest α} {trip : Trip α} {s : σ}
    (hWalker : service.walker.OnFoot)
    (hTrip : ((service.route finder request).run s).result = .ok trip)
    (hRides : trip.rideLegs ≠ []) : ∃ a b, service.Offers request a b := by
  obtain ⟨course, -, -, hCourse, hRidden⟩ := exists_course_of_onFoot hWalker hTrip
  rw [hRidden] at hRides
  obtain ⟨ride, hRide⟩ := List.exists_mem_of_ne_nil _ hRides
  obtain ⟨query, _, hAsked, -⟩ := hCourse.exists_path (Option.mem_toList.mp hRide)
  exact ⟨_, _, (offers_of_asks? hAsked).2⟩

/-- Whatever is reported was walked, if the walker had an answer. -/
theorem result_of_reports_ne_nil (hFinder : finder.Silent) (hSilent : service.boarding.Silent)
    {request : TripRequest α} {s : σ}
    (hTold : ((service.route finder request).run s).reports ≠ []) :
    ∃ reason, service.FallsBack request reason ∧
      ((service.route finder request).run s).reports = [(request, reason)] ∧
      ∃ tell : List (Element α) → Course α, (tell = .collapsed ∨ tell = .walked) ∧
        ((service.route finder request).run s).result =
          ((service.walker.walk request.origin request.destination request.departureTime
            request.traveller).map fun walk =>
              (tell walk).trip service.settings request).mapError .network := by
  rw [reports_route hFinder hSilent] at hTold ⊢
  obtain ⟨hOn, reason, hReason⟩ := reports_ne_nil_iff.mp hTold
  obtain ⟨hValid, hFalls⟩ := fallback?_eq_some_iff.mp hReason
  refine ⟨reason, hFalls, ?_, result_route_of_fallsBack hValid hFalls s⟩
  simp [reports, hOn, hReason]

/-- A router that reports fallbacks reports, over a run of requests and in their order, each
request that passes its check and falls back, once and for one reason. It reports none that is
refused and none that is offered a ride. A router that reports none differs in nothing but its
reports. -/
theorem reports_of_run (service : Service α) {finder : Pathfinder σ α} (hFinder : finder.Silent)
    (hSilent : service.boarding.Silent) (s : σ) (requests : List (TripRequest α)) :
    let reporting := (service.reporting true).routeEach finder s requests
    let quiet := (service.reporting false).routeEach finder s requests
    reporting.flatMap Outcome.reports =
        requests.filterMap (fun request => (service.fallback? request).map (request, ·)) ∧
    (∀ request reason, service.fallback? request = some reason ↔
      request.validate = .ok () ∧ service.FallsBack request reason) ∧
    List.Forall₂ (fun request reached =>
        (∀ fault, request.validate = .error fault → reached.reports = []) ∧
        (∀ a b, service.Offers request a b → reached.reports = []) ∧
        (service.walker.OnFoot → ∀ trip, reached.result = .ok trip → trip.rideLegs ≠ [] →
          reached.reports = []))
      requests reporting ∧
    quiet.flatMap Outcome.reports = [] ∧
    quiet.map Outcome.result = reporting.map Outcome.result ∧
    quiet = reporting.map (Outcome.without Notice.fallback?) := by
  intro reporting quiet
  -- What is reported depends on the settings; who answers and how does not.
  have hReporting : (service.reporting true).boarding.Silent := hSilent
  have hQuiet : (service.reporting false).boarding.Silent := hSilent
  have hWithout : quiet = reporting.map (Outcome.without Notice.fallback?) :=
    routeEach_reporting hFinder hSilent s requests
  refine ⟨?told, fun _ _ => fallback?_eq_some_iff, ?each, ?none, ?same, hWithout⟩
  case told =>
    rw [List.filterMap_eq_flatMap_toList]
    exact flatMap_reports_routeEach hFinder hReporting s requests
  case each =>
    refine (forall₂_routeEach (service.reporting true) finder s requests).imp ?_
    rintro request _ ⟨t, rfl⟩
    rw [reports_route hFinder hReporting]
    have hUnreported (hNone : service.fallback? request = none) :
        (service.reporting true).reports request = [] :=
      reports_of_fallback?_eq_none hNone
    refine ⟨fun _ hFault => hUnreported (fallback?_of_invalid hFault),
      fun _ _ hOffers => hUnreported (fallback?_of_offers hOffers),
      fun hWalker trip hTrip hRides => ?_⟩
    have hWalker : (service.reporting true).walker.OnFoot := hWalker
    obtain ⟨a, b, hOffers⟩ := exists_offers_of_rideLegs hWalker hTrip hRides
    exact reports_of_fallback?_eq_none (fallback?_of_offers hOffers)
  case none =>
    rw [flatMap_reports_routeEach hFinder hQuiet]
    exact List.flatMap_eq_nil_iff.mpr fun _ _ => rfl
  case same =>
    rw [hWithout, List.map_map]
    rfl

end Service

/-- From door to door the two strolls are reported and neither the ride nor the refused request
is; by way of stops the stroll has one stop to board and to alight at. -/
theorem reports_of_run_streets :
    let doors := streetService .doorToDoor .anyLink
    let stops := streetService .stopBased (.atStops (.nearest streetNetwork streetStops))
    ((doors.reporting true).routeEach (.freeSpeed streetNetwork) Search.empty
        [strollRequest 0, southboundRequest, strollRequest (-1), strollRequest 60]).flatMap
        Outcome.reports =
      [(strollRequest 0, .sameLink), (strollRequest 60, .sameLink)] ∧
    ((stops.reporting true).routeEach (.freeSpeed streetNetwork) Search.empty
        [northboundRequest, strollRequest 0]).flatMap Outcome.reports =
      [(strollRequest 0, .sameStopLink)] ∧
    ((stops.reporting false).routeEach (.freeSpeed streetNetwork) Search.empty
        [northboundRequest, strollRequest 0]).flatMap Outcome.reports = [] := by
  intro doors stops
  have hFinder := Pathfinder.silent_freeSpeed streetNetwork
  obtain ⟨hDoors, -⟩ := Service.reports_of_run doors hFinder Boarding.silent_anyLink
    Search.empty [strollRequest 0, southboundRequest, strollRequest (-1), strollRequest 60]
  obtain ⟨hStops, -, -, hQuiet, -⟩ := Service.reports_of_run stops hFinder
    (Boarding.silent_nearest _ _) Search.empty [northboundRequest, strollRequest 0]
  refine ⟨hDoors, hStops.trans ?_, hQuiet⟩
  simp only [stops, streetService, Service.fallback?]
  rw [streetStops, StopIndex.ofStops, Tiling.searchOrder_of_le _ (by decide)]
  decide +kernel

/-- A request that falls back is reported before it is walked. If the walk fails the report stays,
and this is the only failure that leaves one. A teleported walk fails if something it uses of a
link is missing with the link. -/
theorem Service.reports_of_failed_route [Plane α] (service : Service α)
    {finder : Pathfinder σ α} (hFinder : finder.Silent) (hSilent : service.boarding.Silent)
    (request : TripRequest α) (s : σ) :
    let reached := (service.route finder request).run s
    let walk := service.walker.walk request.origin request.destination request.departureTime
      request.traveller
    let falls := service.settings.reportsFallbacks = true ∧ request.validate = .ok () ∧
      ∃ reason, service.FallsBack request reason
    (reached.reports ≠ [] ↔ falls) ∧
    ((∃ e, reached.result = .error e) ∧ reached.reports ≠ [] ↔
      falls ∧ ∃ cause, walk = .error cause) ∧
    (∀ e, reached.result = .error e → reached.reports ≠ [] → ∃ reason cause,
      service.FallsBack request reason ∧ reached.reports = [(request, reason)] ∧
        walk = .error cause ∧ e = .network cause) ∧
    (∀ trip, reached.result = .ok trip → reached.reports ≠ [] → ∃ elements,
      walk = .ok elements ∧
        (trip = (Course.collapsed elements).trip service.settings request ∨
          trip = (Course.walked elements).trip service.settings request)) ∧
    (∀ (network : Network α) (settings : WalkSettings α), network.Built →
      service.walker = Teleport.walker network settings →
      ((∃ cause, walk = .error cause) ↔
        ¬(network.Locates request.origin ∧ network.Locates request.destination ∧
          (settings.accessEgress = true → (network.link? request.origin.link).isSome ∧
            (network.link? request.destination.link).isSome)))) := by
  intro reached walk falls
  have hFalls : reached.reports ≠ [] ↔ falls := by
    simp only [reached, reports_route hFinder hSilent, reports_ne_nil_iff, fallback?_eq_some_iff,
      exists_and_left, falls]
  have hWalked (hTold : reached.reports ≠ []) := result_of_reports_ne_nil hFinder hSilent hTold
  refine ⟨hFalls, ?fails, ?error, ?answer, ?teleported⟩
  case fails =>
    rw [and_comm, ← hFalls, and_congr_right_iff]
    intro hTold
    obtain ⟨-, -, -, tell, -, hResult⟩ := hWalked hTold
    simp only [reached, hResult, Session.mapError_eq_error_iff, Session.map_eq_error_iff]
    constructor
    · rintro ⟨_, cause, hCause, -⟩
      exact ⟨cause, hCause⟩
    · rintro ⟨cause, hCause⟩
      exact ⟨_, cause, hCause, rfl⟩
  case error =>
    intro e hError hTold
    obtain ⟨reason, hReason, hReport, tell, -, hResult⟩ := hWalked hTold
    obtain ⟨cause, hCause, rfl⟩ :=
      (Session.mapError_eq_error_iff _ _ _).mp (hResult.symm.trans hError)
    exact ⟨reason, cause, hReason, hReport, (Session.map_eq_error_iff _ _ _).mp hCause, rfl⟩
  case answer =>
    intro trip hTrip hTold
    obtain ⟨-, -, -, tell, hTell, hResult⟩ := hWalked hTold
    obtain ⟨elements, hWalk, rfl⟩ := (Session.map_eq_ok_iff _ _ _).mp
      ((Session.mapError_eq_ok_iff _ _ _).mp (hResult.symm.trans hTrip))
    refine ⟨elements, hWalk, ?_⟩
    rcases hTell with rfl | rfl
    · exact .inl rfl
    · exact .inr rfl
  case teleported =>
    intro network settings built hWalker
    rw [Session.exists_error_iff]
    simp only [walk, hWalker]
    exact not_congr (Teleport.exists_route_iff built)

/-- A request to go nowhere on a link that the two streets do not have. -/
def strayRequest : TripRequest Float :=
  { strollRequest 0 with origin := .onLink ⟨"c"⟩, destination := .onLink ⟨"c"⟩ }

theorem result_route_stray :
    (((streetService .doorToDoor .anyLink).route (.freeSpeed streetNetwork) strayRequest).run
      Search.empty).result = .error (.network (.unknownLink ⟨"c"⟩)) := by
  rfl

/-- It fails for want of its link, reported as walked. -/
theorem reports_of_failed_route_stray :
    let reached := ((streetService .doorToDoor .anyLink).route (.freeSpeed streetNetwork)
      strayRequest).run Search.empty
    reached.result = .error (.network (.unknownLink ⟨"c"⟩)) ∧
      reached.reports = [(strayRequest, .sameLink)] := by
  intro reached
  let service := streetService .doorToDoor .anyLink
  obtain ⟨hTold, -, hLeft, -⟩ := Service.reports_of_failed_route service
    (Pathfinder.silent_freeSpeed streetNetwork) Boarding.silent_anyLink strayRequest Search.empty
  obtain ⟨reason, cause, hReason, hReports, -⟩ :=
    hLeft _ result_route_stray (hTold.mpr ⟨rfl, by rfl, .sameLink, .doors rfl rfl⟩)
  refine ⟨result_route_stray, ?_⟩
  cases hReason with
  | doors => exact hReports
  | stops hBoarding => cases hBoarding

/-- Not every report is made for a request that is answered. -/
theorem report_left_by_failed_route :
    ¬∀ (plan : NetworkPlan Float) (network : Network Float) (settings : ServiceSettings Float)
        (walk : WalkSettings Float) (index : Option (StopIndex Float)) (service : Service Float)
        (request : TripRequest Float) (e : RoutingError Float),
      plan.build = .ok network → walk.validate = .ok () →
      Service.start settings (Teleport.walker network walk)
        (index.map (StopFinder.nearest network)) = .ok service →
      ((service.route (.freeSpeed network) request).run Search.empty).result = .error e →
      ((service.route (.freeSpeed network) request).run Search.empty).reports = [] := by
  intro hQuiet
  have hNone := hQuiet streets streetNetwork
    { ServiceSettings.default with scheme := .doorToDoor } .default none
    (streetService .doorToDoor .anyLink) strayRequest _ build_streets (by rfl) (by rfl)
    result_route_stray
  have hTold : (((streetService .doorToDoor .anyLink).route (.freeSpeed streetNetwork)
      strayRequest).run Search.empty).reports = [(strayRequest, .sameLink)] := by
    rfl
  cases hTold.symm.trans hNone

end DemandRide
