import DemandRide.Proofs.Service.Failures
import DemandRide.Proofs.Service.Structure

/-! What is asked of a pathfinder. A request is routed with one query or with none, and which it
is can be told before the pathfinder is run. A trip rides exactly if a path was asked for, along
the answer that was given. -/
namespace DemandRide

variable {σ α : Type}

/-- No leg of a list of elements rides the service. -/
def OnFoot (elements : List (Element α)) : Prop :=
  ∀ leg, .leg leg ∈ elements → leg.ride = none

/-- Whatever the walker returns is on foot. -/
def Walker.OnFoot (walker : Walker α) : Prop :=
  ∀ origin destination time traveller elements,
    walker.walk origin destination time traveller = .ok elements → DemandRide.OnFoot elements

theorem Fallback.onFoot_retag (settings : ServiceSettings α) {elements : List (Element α)}
    (h : OnFoot elements) : OnFoot (retag settings elements) := by
  intro leg hLeg
  obtain ⟨element, hElement, hChange⟩ := List.mem_map.mp hLeg
  cases element with
  | activity activity => cases hChange
  | leg original =>
      cases hChange
      have hRide : (retagLeg settings original).ride = original.ride := by
        unfold retagLeg
        split <;> rfl
      rw [hRide]
      exact h original hElement

namespace Trip

theorem rideLegs_append (before after : List (Element α)) :
    rideLegs ⟨before ++ after⟩ = rideLegs ⟨before⟩ ++ rideLegs ⟨after⟩ := by
  simp [rideLegs, legs]

/-- There is nothing to ride in what is done on foot. -/
theorem rideLegs_of_onFoot {elements : List (Element α)} (h : OnFoot elements) :
    rideLegs ⟨elements⟩ = [] := by
  refine List.filter_eq_nil_iff.mpr fun leg hLeg => ?_
  obtain ⟨element, hElement, hSome⟩ := List.mem_filterMap.mp hLeg
  cases element with
  | activity activity => cases hSome
  | leg original =>
      obtain rfl := Option.some.inj hSome
      simp [Leg.isRide, h original hElement]

theorem rideLegs_leg_cons {ride : Leg α} (hRide : ride.isRide) (rest : List (Element α)) :
    rideLegs ⟨.leg ride :: rest⟩ = ride :: rideLegs ⟨rest⟩ := by
  simp [rideLegs, legs, Element.leg?, hRide]

end Trip

theorem Teleport.onFoot_walker [Plane α] (network : Network α) (settings : WalkSettings α) :
    (walker network settings).OnFoot := by
  intro origin destination time traveller elements hWalk leg hLeg
  obtain ⟨_, _, _, _, _, _, hStep⟩ | ⟨_, hStep⟩ := mem_route hWalk hLeg
  · cases hStep
    rfl
  · cases hStep

variable [Scalar α]

namespace Course

variable {settings : ServiceSettings α} {request : TripRequest α}

/-- The ride of a course. -/
def ride? : Course α → Option (Leg α)
  | .ridden _ ride _ => some ride
  | _ => none

/-- Among walks on foot, the ride of a course is what its trip rides. -/
theorem rideLegs_trip {course : Course α} (hWalks : ∀ walk ∈ course.walks, OnFoot walk)
    (hRide : ∀ ride ∈ course.ride?, ride.isRide) :
    (course.trip settings request).rideLegs = course.ride?.toList := by
  cases course with
  | collapsed walk => rfl
  | walked walk =>
      exact Trip.rideLegs_of_onFoot (Fallback.onFoot_retag settings (hWalks walk (.head _)))
  | ridden access ride egress =>
      have hBoarding : Trip.rideLegs ⟨boarding settings access⟩ = [] := by
        cases access with
        | none => rfl
        | some transfer =>
            rw [boarding, Trip.rideLegs_append,
              Trip.rideLegs_of_onFoot (hWalks transfer.walk (.head _))]
            rfl
      have hAlighting : Trip.rideLegs ⟨alighting settings egress⟩ = [] := by
        cases egress with
        | none => rfl
        | some transfer =>
            refine Trip.rideLegs_of_onFoot fun leg hLeg => ?_
            cases hLeg with
            | tail _ hLeg => exact hWalks transfer.walk (by simp [walks]) leg hLeg
      rw [trip, Trip.rideLegs_append, hBoarding, Trip.rideLegs_leg_cons (hRide ride rfl),
        hAlighting]
      rfl

/-- A course rides along the answer to what was asked, if anything was. -/
def Rides (settings : ServiceSettings α) (finder : Pathfinder σ α) (s : σ) (course : Course α) :
    Option (PathQuery α) → Prop
  | none => course.ride? = none
  | some query => ∃ path, ((finder.find query).run s).result = .ok path ∧
      course.ride? = some (Ride.leg settings query path)

theorem Rides.exists_path {finder : Pathfinder σ α} {s : σ} {course : Course α}
    {asked : Option (PathQuery α)} (h : course.Rides settings finder s asked) {ride : Leg α}
    (hRide : ride ∈ course.ride?) :
    ∃ query path, asked = some query ∧ ((finder.find query).run s).result = .ok path ∧
      ride = Ride.leg settings query path := by
  cases asked with
  | none => cases h.symm.trans hRide
  | some query =>
      obtain ⟨path, hPath, hLeg⟩ := h
      exact ⟨query, path, rfl, hPath, Option.some.inj (hRide.symm.trans hLeg)⟩

/-- A course rides once for every query. -/
theorem Rides.length_eq {finder : Pathfinder σ α} {s : σ} {course : Course α}
    {asked : Option (PathQuery α)} (h : course.Rides settings finder s asked) :
    course.ride?.toList.length = asked.toList.length := by
  cases asked with
  | none =>
      rw [show course.ride? = none from h]
      rfl
  | some query =>
      obtain ⟨path, -, hLeg⟩ := h
      rw [hLeg]
      rfl

theorem Rides.isRide {finder : Pathfinder σ α} {s : σ} {course : Course α}
    {asked : Option (PathQuery α)} (h : course.Rides settings finder s asked) :
    ∀ ride ∈ course.ride?, ride.isRide := by
  intro ride hRide
  obtain ⟨query, path, -, -, rfl⟩ := h.exists_path hRide
  rfl

end Course

theorem Ride.state_build {settings : ServiceSettings α} {finder : Pathfinder σ α}
    {query : PathQuery α} {s : σ} :
    ((build settings finder query).run s).state = ((finder.find query).run s).state :=
  Session.Keeps.state_bind (fun _ => .bind (.note _) fun _ => .pure _) s

namespace DoorToDoor

variable {settings : ServiceSettings α} {walker : Walker α} {finder : Pathfinder σ α}
  {request : TripRequest α} {s : σ}

/-- What is asked of the pathfinder for a request. Nothing is, if the request is refused or the
trip is walked, or if the walk to the vehicle fails. -/
def asks? (settings : ServiceSettings α) (walker : Walker α) (request : TripRequest α) :
    Option (PathQuery α) :=
  match request.validate, access? settings walker request with
  | .ok (), .ok access =>
    if request.origin.link = request.destination.link then none
    else some (query settings request access)
  | _, _ => none

/-- Around the query a ride is put together without the pathfinder. -/
theorem state_ride :
    ((ride settings walker finder request).run s).state =
      match access? settings walker request with
      | .error _ => s
      | .ok access => ((finder.find (query settings request access)).run s).state := by
  have hBefore := run_beforeRide settings walker request s
  cases hAccess : access? settings walker request with
  | error e =>
      rw [hAccess] at hBefore
      rw [ride, Session.state_bind_of_error (by rw [hBefore]; rfl), hBefore]
  | ok access =>
      rw [hAccess] at hBefore
      have hAfter (time : α) : (afterRide settings walker request time :
          Session σ (Notice α) (RoutingError α) (List (Element α))).Keeps :=
        fun s => by rw [run_afterRide]
      rw [ride, Session.state_bind_of_ok (by rw [hBefore]; rfl), hBefore]
      refine (Session.Keeps.state_bind (fun _ => ?_) s).trans Ride.state_build
      exact .bind (hAfter _) fun _ => .bind (.note _) fun _ => .pure _

/-- Routing a request does to the state of the pathfinder what the query does. -/
theorem state_route :
    ((route settings walker finder request).run s).state =
      (asks? settings walker request).elim s fun query => ((finder.find query).run s).state := by
  unfold asks? route
  cases hValid : request.validate with
  | error fault =>
      rw [Session.state_bind_of_error (by rw [Session.run_mapError]; rfl)]
      rfl
  | ok valid =>
      rw [Session.state_bind_of_ok (by rw [Session.run_mapError]; rfl)]
      by_cases hLink : request.origin.link = request.destination.link
      · rw [if_pos hLink, Fallback.run_collapsed]
        cases access? settings walker request <;> simp [hLink]
      · rw [if_neg hLink, Session.run_mapError, Session.run_ofExcept, state_ride]
        cases access? settings walker request <;> simp [hLink]

theorem of_asks? {asked : PathQuery α} (h : asks? settings walker request = some asked) :
    request.validate = .ok () ∧ request.origin.link ≠ request.destination.link ∧
      ∃ access, asked = query settings request access := by
  unfold asks? at h
  split at h
  case h_1 access hValid _ =>
    by_cases hLink : request.origin.link = request.destination.link
    · rw [if_pos hLink] at h
      cases h
    · rw [if_neg hLink] at h
      exact ⟨hValid, hLink, access, (Option.some.inj h).symm⟩
  case h_2 => cases h

/-- A trip from door to door rides along what was asked. -/
theorem Takes.rides {course : Course α} (h : Takes settings walker finder request s course) :
    course.Rides settings finder s (asks? settings walker request) := by
  unfold asks?
  cases h with
  | collapsed hValid hLink =>
      rw [hValid]
      cases access? settings walker request <;> simp [hLink, Course.Rides, Course.ride?]
  | ridden hValid hLink hAccess hPath hRide =>
      simp only [hValid, hAccess, if_neg hLink]
      exact ⟨_, hPath, congrArg some hRide⟩

end DoorToDoor

namespace ViaStops

variable {settings : ServiceSettings α} {walker : Walker α} {stops : StopFinder α}
  {finder : Pathfinder σ α} {request : TripRequest α} {s : σ}

/-- What is asked of the pathfinder for a request. Nothing is, if the request is refused, if no
two stops are found to ride between, or if the walk to the first of them fails. -/
def asks? (walker : Walker α) (stops : StopFinder α) (request : TripRequest α) :
    Option (PathQuery α) :=
  match request.validate, ((stops.find request.origin request.destination).run ()).result with
  | .ok (), .ok pair =>
    match choose pair with
    | .walk _ => none
    | .ride access egress =>
      match walker.walk request.origin access.location request.departureTime
        request.traveller with
      | .error _ => none
      | .ok _ => some ⟨access.link, egress.link, request.departureTime⟩
  | _, _ => none

theorem state_ride {access egress : Stop α} :
    ((ride settings walker finder request access egress).run s).state =
      match walker.walk request.origin access.location request.departureTime
        request.traveller with
      | .error _ => s
      | .ok _ => ((finder.find ⟨access.link, egress.link, request.departureTime⟩).run s).state := by
  have hTo := Fallback.run_walk walker request request.origin access.location
    request.departureTime s
  cases hWalk : walker.walk request.origin access.location request.departureTime
    request.traveller with
  | error e =>
      rw [hWalk] at hTo
      rw [ride, Session.state_bind_of_error (by rw [hTo]; rfl), hTo]
  | ok toStop =>
      rw [hWalk] at hTo
      rw [ride, Session.state_bind_of_ok (by rw [hTo]; rfl), hTo]
      refine (Session.Keeps.state_bind (fun _ => ?_) s).trans Ride.state_build
      exact .bind (fun _ => rfl) fun _ => .bind (.note _) fun _ => .pure _

/-- Routing a request does to the state of the pathfinder what the query does. -/
theorem state_route :
    ((route settings walker stops finder request).run s).state =
      (asks? walker stops request).elim s fun query => ((finder.find query).run s).state := by
  unfold asks? route
  cases hValid : request.validate with
  | error fault =>
      rw [Session.state_bind_of_error (by rw [Session.run_mapError]; rfl)]
      rfl
  | ok valid =>
      rw [Session.state_bind_of_ok (by rw [Session.run_mapError]; rfl)]
      cases hPair : ((stops.find request.origin request.destination).run ()).result with
      | error e =>
          rw [Session.state_bind_of_error (by rw [Session.run_stateless]; exact hPair)]
          rfl
      | ok pair =>
          rw [Session.state_bind_of_ok (by rw [Session.run_stateless]; exact hPair)]
          cases hChoice : choose pair with
          | walk reason =>
              simp only [hChoice, Fallback.run_retagged]
              rfl
          | ride access egress =>
              simp only [hChoice, state_ride]
              cases walker.walk request.origin access.location request.departureTime
                request.traveller <;> rfl

theorem of_asks? {asked : PathQuery α} (h : asks? walker stops request = some asked) :
    request.validate = .ok () ∧ ∃ pair access egress,
      ((stops.find request.origin request.destination).run ()).result = .ok pair ∧
        choose pair = .ride access egress ∧
        asked = ⟨access.link, egress.link, request.departureTime⟩ := by
  unfold asks? at h
  split at h
  case h_1 pair hValid hPair =>
    cases hChoice : choose pair with
    | walk reason =>
        rw [hChoice] at h
        cases h
    | ride access egress =>
        simp only [hChoice] at h
        split at h
        · cases h
        · exact ⟨hValid, pair, access, egress, hPair, hChoice, (Option.some.inj h).symm⟩
  case h_2 => cases h

/-- A trip by way of stops rides along what was asked. -/
theorem Takes.rides {course : Course α}
    (h : Takes settings walker stops finder request s course) :
    course.Rides settings finder s (asks? walker stops request) := by
  unfold asks?
  cases h with
  | walked hValid hPair hChoice => simp [hValid, hPair, hChoice, Course.Rides, Course.ride?]
  | ridden hValid hPair hChoice hToStop hPath hRide =>
      simp only [hValid, hPair, hChoice, hToStop]
      exact ⟨_, hPath, congrArg some hRide⟩

end ViaStops

namespace Service

variable {service : Service α} {finder : Pathfinder σ α} {request : TripRequest α} {s : σ}

/-- What is asked of the pathfinder for a request. -/
def asks? (service : Service α) (request : TripRequest α) : Option (PathQuery α) :=
  match service.boarding with
  | .anyLink => DoorToDoor.asks? service.settings service.walker request
  | .atStops stops => ViaStops.asks? service.walker stops request

theorem state_route :
    ((service.route finder request).run s).state =
      (service.asks? request).elim s fun query => ((finder.find query).run s).state := by
  unfold route asks?
  cases service.boarding with
  | anyLink => exact DoorToDoor.state_route
  | atStops stops => exact ViaStops.state_route

/-- A query is made only for a request that passes its check and is offered a ride, between the
links of that ride. -/
theorem offers_of_asks? {query : PathQuery α} (h : service.asks? request = some query) :
    request.validate = .ok () ∧ service.Offers request query.origin query.destination := by
  unfold asks? at h
  cases hBoarding : service.boarding with
  | anyLink =>
      rw [hBoarding] at h
      obtain ⟨hValid, hLink, access, rfl⟩ := DoorToDoor.of_asks? h
      exact ⟨hValid, .doors hBoarding hLink⟩
  | atStops stops =>
      rw [hBoarding] at h
      obtain ⟨hValid, pair, access, egress, hPair, hChoice, rfl⟩ := ViaStops.of_asks? h
      obtain ⟨hAccess, hEgress, hLink⟩ := ViaStops.choose_eq_ride_iff.mp hChoice
      exact ⟨hValid, .stops hBoarding hPair hAccess hEgress hLink⟩

/-- A trip comes of a course whose walks are answers of the walker and that rides along what was
asked. -/
theorem exists_course {trip : Trip α}
    (hTrip : ((service.route finder request).run s).result = .ok trip) :
    ∃ course : Course α, course.trip service.settings request = trip ∧
      (∀ walk ∈ course.walks, ∃ origin destination time,
        service.walker.walk origin destination time request.traveller = .ok walk) ∧
      course.Rides service.settings finder s (service.asks? request) := by
  unfold route at hTrip
  unfold asks?
  cases hBoarding : service.boarding with
  | anyLink =>
      rw [hBoarding] at hTrip
      obtain ⟨course, hTakes, hCourse⟩ := DoorToDoor.result_route_eq_ok_iff.mp hTrip
      exact ⟨course, hCourse, hTakes.exists_walk, hTakes.rides⟩
  | atStops stops =>
      rw [hBoarding] at hTrip
      obtain ⟨course, hTakes, hCourse⟩ := ViaStops.result_route_eq_ok_iff.mp hTrip
      exact ⟨course, hCourse, hTakes.exists_walk, hTakes.rides⟩

/-- Among walkers on foot, what the course of a trip rides is what the trip rides. -/
theorem exists_course_of_onFoot {trip : Trip α} (hWalker : service.walker.OnFoot)
    (hTrip : ((service.route finder request).run s).result = .ok trip) :
    ∃ course : Course α, course.trip service.settings request = trip ∧
      (∀ walk ∈ course.walks, ∃ origin destination time,
        service.walker.walk origin destination time request.traveller = .ok walk) ∧
      course.Rides service.settings finder s (service.asks? request) ∧
      trip.rideLegs = course.ride?.toList := by
  obtain ⟨course, rfl, hWalks, hRides⟩ := exists_course hTrip
  refine ⟨course, rfl, hWalks, hRides, Course.rideLegs_trip (fun walk hMem => ?_) hRides.isRide⟩
  obtain ⟨_, _, _, hWalk⟩ := hWalks walk hMem
  exact hWalker _ _ _ _ _ hWalk

end Service

end DemandRide
