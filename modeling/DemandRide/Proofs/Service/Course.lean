import DemandRide.Proofs.Session
import DemandRide.Service.Router

/-! How a trip comes about: which walks the walker contributed to it and what lies between
them. A router answers exactly if its collaborators answer what it asks of them, so a trip is
known by these answers alone and no proof about trips has to run a router. Nothing is assumed
of a collaborator: a walk may be any list of elements. -/
namespace DemandRide

/-- A walk to or from a ride, and the place where the traveller meets the vehicle. -/
structure Transfer (α : Type) where
  walk : List (Element α)
  place : Location α

/-- What a trip is put together from. -/
inductive Course (α : Type) where
  /-- The whole trip is walked and told as one leg. -/
  | collapsed (walk : List (Element α))
  /-- The whole trip is walked, element by element. -/
  | walked (walk : List (Element α))
  /-- A ride, with or without a transfer at either end. -/
  | ridden (access : Option (Transfer α)) (ride : Leg α) (egress : Option (Transfer α))

namespace Course

variable {α : Type}

/-- Everything the walker contributed, in the order of the trip. -/
def walks : Course α → List (List (Element α))
  | .collapsed walk => [walk]
  | .walked walk => [walk]
  | .ridden access _ egress =>
    (access.map Transfer.walk).toList ++ (egress.map Transfer.walk).toList

variable [Scalar α]

/-- Boarding or alighting at the place of a transfer. -/
def stage (settings : ServiceSettings α) (place : Location α) : Element α :=
  .activity (.stage settings.stageType place)

/-- What comes before a ride. -/
def boarding (settings : ServiceSettings α) : Option (Transfer α) → List (Element α)
  | none => []
  | some transfer => transfer.walk ++ [stage settings transfer.place]

/-- What comes after a ride. -/
def alighting (settings : ServiceSettings α) : Option (Transfer α) → List (Element α)
  | none => []
  | some transfer => stage settings transfer.place :: transfer.walk

/-- The trip of a course. -/
def trip (settings : ServiceSettings α) (request : TripRequest α) : Course α → Trip α
  | .collapsed walk => ⟨[.leg (Fallback.collapse settings request walk)]⟩
  | .walked walk => ⟨Fallback.retag settings walk⟩
  | .ridden access ride egress =>
    ⟨boarding settings access ++ .leg ride :: alighting settings egress⟩

end Course

namespace TripRequest

variable {α : Type} [Scalar α] {request : TripRequest α}

theorem validate_eq_ok_iff :
    request.validate = .ok () ↔
      Scalar.isFinite request.departureTime ∧ Scalar.lt request.departureTime 0 = false := by
  unfold validate
  cases Scalar.isFinite request.departureTime <;>
    cases Scalar.lt request.departureTime 0 <;> simp

theorem validate_eq_error_iff {fault : RequestFault α} :
    request.validate = .error fault ↔
      fault = .notFinite request.departureTime ∧ Scalar.isFinite request.departureTime = false ∨
      fault = .negative request.departureTime ∧ Scalar.isFinite request.departureTime ∧
        Scalar.lt request.departureTime 0 := by
  unfold validate
  cases Scalar.isFinite request.departureTime <;>
    cases Scalar.lt request.departureTime 0 <;> simp [eq_comm]

end TripRequest

/-- A transfer where one is wanted, with the answer to its walk. -/
def Transfer.ask {α : Type} (wanted : Bool) (place : Location α)
    (answer : Except NetworkError (List (Element α))) : Except NetworkError (Option (Transfer α)) :=
  if wanted then answer.map fun walk => some ⟨walk, place⟩ else .ok none

/-- A transfer that was asked for is where it was wanted and has the answer to its walk. -/
theorem Transfer.of_ask {α : Type} {wanted : Bool} {place : Location α}
    {answer : Except NetworkError (List (Element α))} {asked : Option (Transfer α)}
    (h : ask wanted place answer = .ok asked) :
    ∀ transfer ∈ asked, transfer.place = place ∧ answer = .ok transfer.walk := by
  unfold ask at h
  split at h
  · obtain ⟨walk, hWalk, rfl⟩ := (Session.map_eq_ok_iff _ _ _).mp h
    rintro _ ⟨⟩
    exact ⟨rfl, hWalk⟩
  · cases h
    rintro _ ⟨⟩

variable {σ α : Type}

namespace Fallback

/-- The notices of a fallback. -/
def reports (settings : ServiceSettings α) (request : TripRequest α) (reason : FallbackReason) :
    List (Notice α) :=
  if settings.reportsFallbacks then [.fallback request reason] else []

theorem run_report (settings : ServiceSettings α) (request : TripRequest α)
    (reason : FallbackReason) (s : σ) :
    (report settings request reason).run s = ⟨.ok (), s, reports settings request reason⟩ := by
  unfold report reports
  split <;> rfl

theorem run_walk (walker : Walker α) (request : TripRequest α) (origin destination : Location α)
    (time : α) (s : σ) :
    (walk walker request origin destination time).run s =
      ⟨(walker.walk origin destination time request.traveller).mapError .network, s, []⟩ := rfl

/-- However the walk is told, it is reported before it is asked for, whatever the walker
answers. -/
theorem run_told (settings : ServiceSettings α) (walker : Walker α) (request : TripRequest α)
    (reason : FallbackReason) (tell : List (Element α) → Trip α) (s : σ) :
    Session.run (do
      report settings request reason
      let elements ← walk walker request request.origin request.destination request.departureTime
      return tell elements) s =
      ⟨((walker.walk request.origin request.destination request.departureTime
          request.traveller).map tell).mapError .network,
        s, reports settings request reason⟩ := by
  simp only [Session.run_bind, run_report, run_walk]
  cases walker.walk request.origin request.destination request.departureTime
    request.traveller <;> simp [Except.map]

variable [Scalar α]

theorem run_collapsed (settings : ServiceSettings α) (walker : Walker α)
    (request : TripRequest α) (reason : FallbackReason) (s : σ) :
    (collapsed settings walker request reason).run s =
      ⟨((walker.walk request.origin request.destination request.departureTime
          request.traveller).map fun walk =>
            (Course.collapsed walk).trip settings request).mapError .network,
        s, reports settings request reason⟩ :=
  run_told settings walker request reason _ s

theorem run_retagged (settings : ServiceSettings α) (walker : Walker α)
    (request : TripRequest α) (reason : FallbackReason) (s : σ) :
    (retagged settings walker request reason).run s =
      ⟨((walker.walk request.origin request.destination request.departureTime
          request.traveller).map fun walk =>
            (Course.walked walk).trip settings request).mapError .network,
        s, reports settings request reason⟩ :=
  run_told settings walker request reason _ s

end Fallback

variable [Scalar α]

theorem Ride.result_build_eq_ok_iff {settings : ServiceSettings α} {finder : Pathfinder σ α}
    {query : PathQuery α} {s : σ} {ride : Leg α} :
    ((Ride.build settings finder query).run s).result = .ok ride ↔
      ∃ path, ((finder.find query).run s).result = .ok path ∧
        Ride.leg settings query path = ride := by
  simp [Ride.build, Session.result_bind_eq_ok_iff]

namespace DoorToDoor

/-- The walk to the pickup link is asked for where it is inserted and the origin is no stop. -/
def access? (settings : ServiceSettings α) (walker : Walker α) (request : TripRequest α) :
    Except NetworkError (Option (Transfer α)) :=
  let pickup := Location.onLink request.origin.link
  Transfer.ask (settings.walksToRide && !request.origin.isStop) pickup
    (walker.walk request.origin pickup request.departureTime request.traveller)

/-- The walk from the drop-off link is asked for where it is inserted. -/
def egress? (settings : ServiceSettings α) (walker : Walker α) (request : TripRequest α)
    (time : α) : Except NetworkError (Option (Transfer α)) :=
  let dropOff := Location.onLink request.destination.link
  Transfer.ask settings.walksToRide dropOff
    (walker.walk dropOff request.destination
      (Element.advance time (Course.stage settings dropOff)) request.traveller)

/-- The path that is asked for once the access is known. -/
def query (settings : ServiceSettings α) (request : TripRequest α)
    (access : Option (Transfer α)) : PathQuery α :=
  ⟨request.origin.link, request.destination.link,
    Element.advanceOver request.departureTime (Course.boarding settings access)⟩

/-- The courses that a trip from door to door can take. -/
inductive Takes (settings : ServiceSettings α) (walker : Walker α) (finder : Pathfinder σ α)
    (request : TripRequest α) (s : σ) : Course α → Prop where
  | collapsed {walk : List (Element α)}
      (hValid : request.validate = .ok ())
      (hLink : request.origin.link = request.destination.link)
      (hWalk : walker.walk request.origin request.destination request.departureTime
        request.traveller = .ok walk) :
      Takes settings walker finder request s (.collapsed walk)
  | ridden {access egress : Option (Transfer α)} {path : DirectPath α} {ride : Leg α}
      (hValid : request.validate = .ok ())
      (hLink : request.origin.link ≠ request.destination.link)
      (hAccess : access? settings walker request = .ok access)
      (hPath : ((finder.find (query settings request access)).run s).result = .ok path)
      (hRide : ride = Ride.leg settings (query settings request access) path)
      (hEgress : egress? settings walker request
        (Element.advance (query settings request access).departureTime (.leg ride)) = .ok egress) :
      Takes settings walker finder request s (.ridden access ride egress)

theorem run_beforeRide (settings : ServiceSettings α) (walker : Walker α)
    (request : TripRequest α) (s : σ) :
    (beforeRide settings walker request).run s =
      ⟨((access? settings walker request).map (Course.boarding settings)).mapError .network,
        s, []⟩ := by
  unfold beforeRide access? Transfer.ask
  split
  · simp only [Session.run_bind, Fallback.run_walk]
    cases walker.walk request.origin (.onLink request.origin.link) request.departureTime
      request.traveller <;> simp [Except.map, Course.boarding, Course.stage]
  · rfl

theorem run_afterRide (settings : ServiceSettings α) (walker : Walker α)
    (request : TripRequest α) (time : α) (s : σ) :
    (afterRide settings walker request time).run s =
      ⟨((egress? settings walker request time).map (Course.alighting settings)).mapError .network,
        s, []⟩ := by
  unfold afterRide egress? Transfer.ask
  split
  · simp only [Session.run_bind, Fallback.run_walk, Course.stage]
    cases walker.walk (.onLink request.destination.link) request.destination
      (Element.advance time (.activity (.stage settings.stageType
        (.onLink request.destination.link)))) request.traveller <;>
      simp [Except.map, Course.alighting, Course.stage]
  · rfl

/-- A router from door to door answers with the trips of the courses it can take. -/
theorem result_route_eq_ok_iff {settings : ServiceSettings α} {walker : Walker α}
    {finder : Pathfinder σ α} {request : TripRequest α} {s : σ} {trip : Trip α} :
    ((route settings walker finder request).run s).result = .ok trip ↔
      ∃ course, Takes settings walker finder request s course ∧
        course.trip settings request = trip := by
  simp only [route, Session.result_bind_eq_ok_iff, Session.run_mapError, Session.run_ofExcept,
    Session.mapError_eq_ok_iff]
  by_cases hLink : request.origin.link = request.destination.link
  · simp only [hLink, if_true, Fallback.run_collapsed, Session.mapError_eq_ok_iff,
      Session.map_eq_ok_iff]
    constructor
    · rintro ⟨_, hValid, walk, hWalk, rfl⟩
      exact ⟨_, .collapsed hValid hLink hWalk, rfl⟩
    · rintro ⟨_, hTakes, rfl⟩
      cases hTakes with
      | collapsed hValid _ hWalk => exact ⟨(), hValid, _, hWalk, rfl⟩
      | ridden _ hDiffer => exact absurd hLink hDiffer
  · simp only [hLink, if_false, ride, Session.result_bind_eq_ok_iff, run_beforeRide,
      run_afterRide, Ride.result_build_eq_ok_iff, Session.mapError_eq_ok_iff,
      Session.map_eq_ok_iff, Session.run_note, Session.run_pure]
    constructor
    · rintro ⟨_, hValid, _, ⟨access, hAccess, rfl⟩, _, ⟨path, hPath, rfl⟩, _, ⟨egress, hEgress, rfl⟩,
        _, -, hTrip⟩
      cases hTrip
      exact ⟨_, .ridden hValid hLink hAccess hPath rfl hEgress, rfl⟩
    · rintro ⟨_, hTakes, rfl⟩
      cases hTakes with
      | collapsed _ hSame => exact absurd hSame hLink
      | ridden hValid _ hAccess hPath hRide hEgress =>
          subst hRide
          exact ⟨(), hValid, _, ⟨_, hAccess, rfl⟩, _, ⟨_, hPath, rfl⟩, _, ⟨_, hEgress, rfl⟩,
            (), trivial, rfl⟩

/-- The answers of the collaborators leave no choice of a course. -/
theorem Takes.unique {settings : ServiceSettings α} {walker : Walker α} {finder : Pathfinder σ α}
    {request : TripRequest α} {s : σ} {course other : Course α}
    (hCourse : Takes settings walker finder request s course)
    (hOther : Takes settings walker finder request s other) : course = other := by
  cases hCourse with
  | collapsed _ hLink hWalk =>
      cases hOther with
      | collapsed _ _ hWalk' =>
          obtain rfl := Except.ok.inj (hWalk.symm.trans hWalk')
          rfl
      | ridden _ hLink' => exact absurd hLink hLink'
  | ridden _ hLink hAccess hPath hRide hEgress =>
      cases hOther with
      | collapsed _ hLink' => exact absurd hLink' hLink
      | ridden _ _ hAccess' hPath' hRide' hEgress' =>
          obtain rfl := Except.ok.inj (hAccess.symm.trans hAccess')
          obtain rfl := Except.ok.inj (hPath.symm.trans hPath')
          subst hRide hRide'
          obtain rfl := Except.ok.inj (hEgress.symm.trans hEgress')
          rfl

end DoorToDoor

namespace ViaStops

/-- The courses that a trip by way of stops can take. -/
inductive Takes (settings : ServiceSettings α) (walker : Walker α) (stops : StopFinder α)
    (finder : Pathfinder σ α) (request : TripRequest α) (s : σ) : Course α → Prop where
  | walked {pair : StopPair α} {reason : FallbackReason} {walk : List (Element α)}
      (hValid : request.validate = .ok ())
      (hPair : ((stops.find request.origin request.destination).run ()).result = .ok pair)
      (hChoice : choose pair = .walk reason)
      (hWalk : walker.walk request.origin request.destination request.departureTime
        request.traveller = .ok walk) :
      Takes settings walker stops finder request s (.walked walk)
  | ridden {pair : StopPair α} {access egress : Stop α} {toStop fromStop : List (Element α)}
      {path : DirectPath α} {ride : Leg α}
      (hValid : request.validate = .ok ())
      (hPair : ((stops.find request.origin request.destination).run ()).result = .ok pair)
      (hChoice : choose pair = .ride access egress)
      (hToStop : walker.walk request.origin access.location request.departureTime
        request.traveller = .ok toStop)
      (hPath : ((finder.find ⟨access.link, egress.link, request.departureTime⟩).run s).result =
        .ok path)
      (hRide : ride = Ride.leg settings ⟨access.link, egress.link, request.departureTime⟩ path)
      (hFromStop : walker.walk egress.location request.destination
        (Element.advanceOver request.departureTime
          (toStop ++ [Course.stage settings access.location, .leg ride,
            Course.stage settings egress.location]))
        request.traveller = .ok fromStop) :
      Takes settings walker stops finder request s
        (.ridden (some ⟨toStop, access.location⟩) ride (some ⟨fromStop, egress.location⟩))

/-- Every course begins with a request that passes its check. -/
theorem Takes.valid {settings : ServiceSettings α} {walker : Walker α} {stops : StopFinder α}
    {finder : Pathfinder σ α} {request : TripRequest α} {s : σ} {course : Course α}
    (hTakes : Takes settings walker stops finder request s course) :
    request.validate = .ok () := by
  cases hTakes <;> assumption

theorem result_ride_eq_ok_iff {settings : ServiceSettings α} {walker : Walker α}
    {finder : Pathfinder σ α} {request : TripRequest α} {access egress : Stop α} {s : σ}
    {trip : Trip α} :
    ((ride settings walker finder request access egress).run s).result = .ok trip ↔
      ∃ toStop path fromStop,
        walker.walk request.origin access.location request.departureTime request.traveller =
          .ok toStop ∧
        ((finder.find ⟨access.link, egress.link, request.departureTime⟩).run s).result = .ok path ∧
        walker.walk egress.location request.destination
          (Element.advanceOver request.departureTime
            (toStop ++ [Course.stage settings access.location,
              .leg (Ride.leg settings ⟨access.link, egress.link, request.departureTime⟩ path),
              Course.stage settings egress.location]))
          request.traveller = .ok fromStop ∧
        (Course.ridden (some ⟨toStop, access.location⟩)
          (Ride.leg settings ⟨access.link, egress.link, request.departureTime⟩ path)
          (some ⟨fromStop, egress.location⟩)).trip settings request = trip := by
  simp only [ride, Session.result_bind_eq_ok_iff, Fallback.run_walk, Session.mapError_eq_ok_iff,
    Ride.result_build_eq_ok_iff, Session.run_note, Session.run_pure]
  constructor
  · rintro ⟨toStop, hToStop, _, ⟨path, hPath, rfl⟩, fromStop, hFromStop, _, -, hTrip⟩
    cases hTrip
    exact ⟨toStop, path, fromStop, hToStop, hPath, hFromStop, by
      simp [Course.trip, Course.boarding, Course.alighting, Course.stage]⟩
  · rintro ⟨toStop, path, fromStop, hToStop, hPath, hFromStop, rfl⟩
    exact ⟨toStop, hToStop, _, ⟨path, hPath, rfl⟩, fromStop, hFromStop, (), trivial, by
      simp [Course.trip, Course.boarding, Course.alighting, Course.stage]⟩

/-- A router by way of stops answers with the trips of the courses it can take. -/
theorem result_route_eq_ok_iff {settings : ServiceSettings α} {walker : Walker α}
    {stops : StopFinder α} {finder : Pathfinder σ α} {request : TripRequest α} {s : σ}
    {trip : Trip α} :
    ((route settings walker stops finder request).run s).result = .ok trip ↔
      ∃ course, Takes settings walker stops finder request s course ∧
        course.trip settings request = trip := by
  simp only [route, Session.result_bind_eq_ok_iff, Session.run_mapError, Session.run_ofExcept,
    Session.run_stateless, Session.mapError_eq_ok_iff]
  constructor
  · rintro ⟨_, hValid, pair, hPair, hRoute⟩
    cases hChoice : choose pair with
    | walk reason =>
        simp only [hChoice, Fallback.run_retagged, Session.mapError_eq_ok_iff,
          Session.map_eq_ok_iff] at hRoute
        obtain ⟨walk, hWalk, rfl⟩ := hRoute
        exact ⟨_, .walked hValid hPair hChoice hWalk, rfl⟩
    | ride access egress =>
        simp only [hChoice, result_ride_eq_ok_iff] at hRoute
        obtain ⟨toStop, path, fromStop, hToStop, hPath, hFromStop, hTrip⟩ := hRoute
        exact ⟨_, .ridden hValid hPair hChoice hToStop hPath rfl hFromStop, hTrip⟩
  · rintro ⟨_, hTakes, rfl⟩
    cases hTakes with
    | walked hValid hPair hChoice hWalk =>
        refine ⟨(), hValid, _, hPair, ?_⟩
        simp only [hChoice, Fallback.run_retagged, Session.mapError_eq_ok_iff,
          Session.map_eq_ok_iff]
        exact ⟨_, hWalk, rfl⟩
    | ridden hValid hPair hChoice hToStop hPath hRide hFromStop =>
        refine ⟨(), hValid, _, hPair, ?_⟩
        subst hRide
        simp only [hChoice, result_ride_eq_ok_iff]
        exact ⟨_, _, _, hToStop, hPath, hFromStop, rfl⟩

/-- The answers of the collaborators leave no choice of a course. -/
theorem Takes.unique {settings : ServiceSettings α} {walker : Walker α} {stops : StopFinder α}
    {finder : Pathfinder σ α} {request : TripRequest α} {s : σ} {course other : Course α}
    (hCourse : Takes settings walker stops finder request s course)
    (hOther : Takes settings walker stops finder request s other) : course = other := by
  cases hCourse with
  | walked _ hPair hChoice hWalk =>
      cases hOther with
      | walked _ _ _ hWalk' =>
          obtain rfl := Except.ok.inj (hWalk.symm.trans hWalk')
          rfl
      | ridden _ hPair' hChoice' =>
          obtain rfl := Except.ok.inj (hPair.symm.trans hPair')
          cases hChoice.symm.trans hChoice'
  | ridden _ hPair hChoice hToStop hPath hRide hFromStop =>
      cases hOther with
      | walked _ hPair' hChoice' =>
          obtain rfl := Except.ok.inj (hPair.symm.trans hPair')
          cases hChoice.symm.trans hChoice'
      | ridden _ hPair' hChoice' hToStop' hPath' hRide' hFromStop' =>
          obtain rfl := Except.ok.inj (hPair.symm.trans hPair')
          cases hChoice.symm.trans hChoice'
          obtain rfl := Except.ok.inj (hToStop.symm.trans hToStop')
          obtain rfl := Except.ok.inj (hPath.symm.trans hPath')
          subst hRide hRide'
          obtain rfl := Except.ok.inj (hFromStop.symm.trans hFromStop')
          rfl

end ViaStops

/-- A service that was opened is made of valid settings, the walker it was given and, if its
scheme uses stops, what was given to find them. -/
theorem Service.start_eq_ok_iff {settings : ServiceSettings α} {walker : Walker α}
    {stops : Option (StopFinder α)} {service : Service α} :
    start settings walker stops = .ok service ↔
      settings.validate = .ok () ∧ service.settings = settings ∧ service.walker = walker ∧
        ((settings.scheme.usesStops = false ∧ service.boarding = .anyLink) ∨
          ∃ finder, settings.scheme.usesStops = true ∧ stops = some finder ∧
            service.boarding = .atStops finder) := by
  obtain ⟨settings', walker', boarding⟩ := service
  unfold start
  cases settings.validate with
  | error e => simp
  | ok valid =>
      cases settings.scheme.usesStops <;> cases stops <;> simp [eq_comm]

end DemandRide
