import DemandRide.Proofs.Number.Exact
import DemandRide.Proofs.Road.Search
import DemandRide.Proofs.Service.Comparison

/-! Requests that are postponed. A trip is answered to a postponed request that differs in when its
legs depart and in nothing else: every duration is the same whenever it is spent, so that the
clock of the trip is behind by the delay throughout. This needs sums that may be taken in any
order. -/
namespace DemandRide

variable {σ α : Type} [Scalar α]

/-- The same leg, departing later. -/
def Leg.postpone (delay : α) (leg : Leg α) : Leg α :=
  { leg with departureTime := leg.departureTime + delay }

/-- The same element, if it is a leg departing later. -/
def Element.postpone (delay : α) : Element α → Element α := mapLeg (Leg.postpone delay)

/-- The same trip, with every leg departing later. -/
def Trip.postpone (delay : α) (trip : Trip α) : Trip α :=
  ⟨trip.elements.map (Element.postpone delay)⟩

/-- The same request, departing later. -/
@[simps] def TripRequest.postpone (delay : α) (request : TripRequest α) : TripRequest α :=
  { request with departureTime := request.departureTime + delay }

def Transfer.postpone (delay : α) (transfer : Transfer α) : Transfer α :=
  { transfer with walk := transfer.walk.map (Element.postpone delay) }

def Course.postpone (delay : α) : Course α → Course α
  | .collapsed walk => .collapsed (walk.map (Element.postpone delay))
  | .walked walk => .walked (walk.map (Element.postpone delay))
  | .ridden access ride egress =>
    .ridden (access.map (Transfer.postpone delay)) (ride.postpone delay)
      (egress.map (Transfer.postpone delay))

/-- Walks that are begun later are the same walks, postponed. -/
def Walker.Postpones (walker : Walker α) : Prop :=
  ∀ origin destination time delay traveller,
    walker.walk origin destination (time + delay) traveller =
      (walker.walk origin destination time traveller).map (List.map (Element.postpone delay))

variable (delay : α)

namespace Element

@[simp] theorem duration_postpone (element : Element α) :
    (element.postpone delay).duration = element.duration := by
  cases element <;> rfl

/-- A clock is moved on as far by what is postponed. -/
@[simp] theorem advanceOver_postpone (time : α) (elements : List (Element α)) :
    advanceOver time (elements.map (postpone delay)) = advanceOver time elements := by
  induction elements generalizing time with
  | nil => rfl
  | cons element rest ih =>
      simp only [advanceOver, List.map_cons, List.foldl_cons, advance, duration_postpone]
      exact ih _

end Element

namespace Course

variable (settings : ServiceSettings α)

theorem boarding_postpone (access : Option (Transfer α)) :
    boarding settings (access.map (Transfer.postpone delay)) =
      (boarding settings access).map (Element.postpone delay) := by
  cases access with
  | none => rfl
  | some transfer => simp [boarding, Transfer.postpone, stage, Element.postpone, Element.mapLeg]

theorem alighting_postpone (egress : Option (Transfer α)) :
    alighting settings (egress.map (Transfer.postpone delay)) =
      (alighting settings egress).map (Element.postpone delay) := by
  cases egress with
  | none => rfl
  | some transfer => rfl

end Course

namespace Fallback

variable (settings : ServiceSettings α)

theorem walkedDistance_postpone (walk : List (Element α)) :
    walkedDistance (walk.map (Element.postpone delay)) = walkedDistance walk := by
  have hDistances : ((walk.map (Element.postpone delay)).filterMap Element.leg?).filterMap
      Leg.distance = (walk.filterMap Element.leg?).filterMap Leg.distance := by
    rw [List.filterMap_map, List.filterMap_filterMap, List.filterMap_filterMap]
    congr 1
    funext element
    cases element <;> rfl
  rw [walkedDistance, walkedDistance, hDistances]

/-- A walk that is told as one leg departs with the request and takes as long as it takes. -/
theorem collapse_postpone (request : TripRequest α) (walk : List (Element α)) :
    collapse settings (request.postpone delay) (walk.map (Element.postpone delay)) =
      (collapse settings request walk).postpone delay := by
  simp only [collapse, Element.advanceOver_postpone, walkedDistance_postpone]
  rfl

theorem retag_postpone (walk : List (Element α)) :
    retag settings (walk.map (Element.postpone delay)) =
      (retag settings walk).map (Element.postpone delay) := by
  have hLeg (leg : Leg α) :
      retagLeg settings (leg.postpone delay) = (retagLeg settings leg).postpone delay := by
    by_cases hMode : leg.mode = walkMode <;> simp [retagLeg, Leg.postpone, Leg.withMode, hMode]
  simp only [retag, List.map_map]
  congr 1
  funext element
  cases element with
  | activity activity => rfl
  | leg leg => exact congrArg Element.leg (hLeg leg)

end Fallback

/-- The trip of a postponed course is the postponed trip. -/
theorem Course.trip_postpone (settings : ServiceSettings α) (request : TripRequest α)
    (course : Course α) :
    (course.postpone delay).trip settings (request.postpone delay) =
      (course.trip settings request).postpone delay := by
  cases course with
  | collapsed walk =>
      simp only [postpone, trip, Fallback.collapse_postpone]
      rfl
  | walked walk =>
      simp only [postpone, trip, Fallback.retag_postpone]
      rfl
  | ridden access ride egress =>
      simp only [postpone, trip, boarding_postpone, alighting_postpone, Trip.postpone,
        List.map_append, List.map_cons]
      rfl

theorem Transfer.ask_postpone (wanted : Bool) (place : Location α)
    (answer : Except NetworkError (List (Element α))) :
    ask wanted place (answer.map (List.map (Element.postpone delay))) =
      (ask wanted place answer).map (Option.map (Transfer.postpone delay)) := by
  cases wanted with
  | false => rfl
  | true => cases answer <;> rfl

variable [ExactScalar α]

theorem ExactScalar.add_right_comm (a b c : α) : a + b + c = a + c + b := by
  rw [add_assoc, add_comm b c, ← add_assoc]

namespace Element

/-- A clock that starts behind stays behind by as much. -/
theorem advance_later (time : α) (element : Element α) :
    advance (time + delay) element = advance time element + delay :=
  ExactScalar.add_right_comm ..

theorem advance_later_leg (time : α) (leg : Leg α) :
    advance (time + delay) (.leg (leg.postpone delay)) = advance time (.leg leg) + delay :=
  advance_later ..

theorem advanceOver_later (time : α) (elements : List (Element α)) :
    advanceOver (time + delay) elements = advanceOver time elements + delay := by
  induction elements generalizing time with
  | nil => rfl
  | cons element rest ih =>
      change advanceOver (advance (time + delay) element) rest = _
      rw [advance_later]
      exact ih _

variable {delay}

/-- Of the same elements, those that keep a later time are postponed. -/
theorem eq_postpone_of_redated {time : α} {elements others : List (Element α)}
    (h : List.Forall₂ Redated elements others) (hTime : Punctual time elements)
    (hLater : Punctual (time + delay) others) : others = elements.map (postpone delay) := by
  -- Both clocks move on by the same duration, so the one stays behind by `delay` all along.
  induction h generalizing time with
  | nil => rfl
  | @cons element other rest otherRest hFirst _ ih =>
      obtain ⟨hElement, hRest⟩ := (punctual_cons _ _ _).mp hTime
      obtain ⟨hOther, hOtherRest⟩ := (punctual_cons _ _ _).mp hLater
      have hEq : other = element.postpone delay := by
        cases hFirst with
        | activity activity => rfl
        | leg leg departure =>
            have hDeparture := (punctual_singleton_leg _ _).mp hElement
            obtain rfl : departure = time + delay := (punctual_singleton_leg _ _).mp hOther
            rw [← hDeparture]
            rfl
      subst hEq
      rw [advance, duration_postpone, ← advance, advance_later] at hOtherRest
      rw [List.map_cons, ih hRest hOtherRest]

end Element

/-- Walks that keep time and do not depend on it are postponed as a whole. -/
theorem Walker.Timeless.postpones {walker : Walker α} (hTimeless : walker.Timeless)
    (hTime : walker.KeepsTime) : walker.Postpones := by
  intro origin destination time delay traveller
  refine (hTimeless origin destination time (time + delay) traveller).answers.eq_map ?_
  rintro now later ⟨hSame, hNow, hLater⟩
  exact Element.eq_postpone_of_redated hSame (hTime _ _ _ _ _ hNow) (hTime _ _ _ _ _ hLater)

/-- Where a request may depart, it may depart later. -/
theorem TripRequest.validate_postpone {request : TripRequest α} {delay : α}
    (hValid : request.validate = .ok ()) (hDelay : Scalar.lt delay 0 = false) :
    (request.postpone delay).validate = .ok () := by
  obtain ⟨-, hDeparture⟩ := validate_eq_ok_iff.mp hValid
  exact validate_eq_ok_iff.mpr
    ⟨ExactScalar.isFinite _, OrderedScalar.not_add_lt_zero hDeparture hDelay⟩

section Courses

variable {settings : ServiceSettings α} {walker : Walker α}
  {path? : PathQuery α → Except PathError (DirectPath α)} {request : TripRequest α} {delay : α}

/-- A course that is asked for later is taken later. -/
theorem DoorToDoor.course_postpone (hWalker : walker.Postpones)
    (hPath : ∀ query time, path? { query with departureTime := time } = path? query)
    (hValid : request.validate = .ok ()) (hLater : (request.postpone delay).validate = .ok ()) :
    course settings walker path? (request.postpone delay) =
      (course settings walker path? request).map (Course.postpone delay) := by
  have hAccess : access? settings walker (request.postpone delay) =
      (access? settings walker request).map (Option.map (Transfer.postpone delay)) := by
    rw [access?, access?, ← Transfer.ask_postpone, ← hWalker]
    rfl
  have hEgress (time : α) : egress? settings walker (request.postpone delay) (time + delay) =
      (egress? settings walker request time).map (Option.map (Transfer.postpone delay)) := by
    rw [egress?, egress?, ← Transfer.ask_postpone, ← hWalker, ← Element.advance_later]
    rfl
  have hQuery (access : Option (Transfer α)) :
      query settings (request.postpone delay) (access.map (Transfer.postpone delay)) =
        { query settings request access with
          departureTime := (query settings request access).departureTime + delay } := by
    rw [query, Course.boarding_postpone, Element.advanceOver_postpone]
    exact congrArg (PathQuery.mk _ _) (Element.advanceOver_later ..)
  have hRide (asked : PathQuery α) (path : DirectPath α) :
      Ride.leg settings { asked with departureTime := asked.departureTime + delay } path =
        (Ride.leg settings asked path).postpone delay := rfl
  unfold course
  rw [hValid, hLater]
  simp only [TripRequest.postpone_origin, TripRequest.postpone_destination,
    TripRequest.postpone_departureTime, TripRequest.postpone_traveller, hWalker _ _ _ _ _, hAccess,
    Session.mapError_ok, Session.ok_bind]
  split
  · cases walker.walk request.origin request.destination request.departureTime
      request.traveller <;> rfl
  · cases access? settings walker request with
    | error e => rfl
    | ok access =>
        simp only [Except.map, Session.mapError_ok, Session.ok_bind, hQuery, hPath, hRide]
        cases path? (query settings request access) with
        | error e => rfl
        | ok path =>
            simp only [Session.mapError_ok, Session.ok_bind, Element.advance_later_leg, hEgress]
            cases egress? settings walker request (Element.advance
              (query settings request access).departureTime
              (.leg (Ride.leg settings (query settings request access) path))) <;> rfl

/-- The clock that is behind at the first stop is behind by as much at the second. -/
theorem ViaStops.course_postpone {stops : StopFinder α} (hWalker : walker.Postpones)
    (hPath : ∀ query time, path? { query with departureTime := time } = path? query)
    (hValid : request.validate = .ok ()) (hLater : (request.postpone delay).validate = .ok ()) :
    course settings walker stops path? (request.postpone delay) =
      (course settings walker stops path? request).map (Course.postpone delay) := by
  have hRide (origin destination : LinkId) (path : DirectPath α) :
      Ride.leg settings ⟨origin, destination, request.departureTime + delay⟩ path =
        (Ride.leg settings ⟨origin, destination, request.departureTime⟩ path).postpone delay := rfl
  have hAlighted (toStop : List (Element α)) (access egress : Location α) (ride : Leg α) :
      Element.advanceOver (request.departureTime + delay)
        (toStop.map (Element.postpone delay) ++ [Course.stage settings access,
          .leg (ride.postpone delay), Course.stage settings egress]) =
      Element.advanceOver request.departureTime
        (toStop ++ [Course.stage settings access, .leg ride, Course.stage settings egress]) +
          delay := by
    rw [← Element.advanceOver_later, ← Element.advanceOver_postpone delay _ (toStop ++ _),
      List.map_append]
    rfl
  unfold course
  rw [hValid, hLater]
  simp only [TripRequest.postpone_origin, TripRequest.postpone_destination,
    TripRequest.postpone_departureTime, TripRequest.postpone_traveller, hWalker _ _ _ _ _,
    Session.mapError_ok, Session.ok_bind]
  cases ((stops.find request.origin request.destination).run ()).result with
  | error e => rfl
  | ok pair =>
      simp only [Session.ok_bind]
      cases choose pair with
      | walk reason =>
          cases walker.walk request.origin request.destination request.departureTime
            request.traveller <;> rfl
      | ride access egress =>
          dsimp only
          cases walker.walk request.origin access.location request.departureTime
            request.traveller with
          | error e => rfl
          | ok toStop =>
              have hPath := hPath ⟨access.link, egress.link, request.departureTime⟩
              simp only [Except.map, Session.mapError_ok, Session.ok_bind, hPath, hRide]
              cases path? ⟨access.link, egress.link, request.departureTime⟩ with
              | error e => rfl
              | ok path =>
                  simp only [Session.mapError_ok, Session.ok_bind, hAlighted, hWalker _ _ _ _ _]
                  cases walker.walk egress.location request.destination _
                    request.traveller <;> rfl

end Courses

/-- A service whose walks are postponed and whose paths do not depend on the time answers a
postponed request with the postponed trip, or fails as it did. -/
theorem Service.result_postpone {service : Service α} {finder : Pathfinder σ α}
    (hWalker : service.walker.Postpones)
    (hFinder : ∀ query time s t,
      ((finder.find { query with departureTime := time }).run t).result =
        ((finder.find query).run s).result)
    {request : TripRequest α} {delay : α} (hValid : request.validate = .ok ())
    (hDelay : Scalar.lt delay 0 = false) (s t : σ) :
    ((service.route finder (request.postpone delay)).run t).result =
      ((service.route finder request).run s).result.map (Trip.postpone delay) := by
  have hLater := request.validate_postpone hValid hDelay
  have hAnswers : (fun query => ((finder.find query).run t).result) =
      fun query => ((finder.find query).run s).result :=
    funext fun query => hFinder query query.departureTime s t
  have hPath := fun query time => hFinder query time s s
  rw [result_route, result_route, hAnswers]
  have hCourse : service.course (fun query => ((finder.find query).run s).result)
      (request.postpone delay) = (service.course (fun query => ((finder.find query).run s).result)
        request).map (Course.postpone delay) := by
    unfold course
    cases service.boarding with
    | anyLink => exact DoorToDoor.course_postpone hWalker hPath hValid hLater
    | atStops stops => exact ViaStops.course_postpone hWalker hPath hValid hLater
  rw [hCourse]
  cases service.course (fun query => ((finder.find query).run s).result) request with
  | error e => rfl
  | ok course => exact congrArg Except.ok (Course.trip_postpone ..)

/-- In exact arithmetic a request that departs later is answered with the same trip, in which every
leg departs as much later, and where there is no trip it fails for the same reason. -/
theorem Service.route_postpone {α : Type} [Plane α] [ExactScalar α] (network : Network α)
    (walk : WalkSettings α) (settings : ServiceSettings α) (boarding : Boarding α)
    (request : TripRequest α) (delay : α) (hValid : request.validate = .ok ())
    (hDelay : Scalar.lt delay 0 = false) (s t : Search α) :
    ((route ⟨settings, Teleport.walker network walk, boarding⟩ (.freeSpeed network)
      (request.postpone delay)).run t).result =
      ((route ⟨settings, Teleport.walker network walk, boarding⟩ (.freeSpeed network)
        request).run s).result.map (Trip.postpone delay) :=
  result_postpone
    ((Teleport.timeless_walker network walk).postpones (Teleport.keepsTime_walker network walk))
    (Pathfinder.result_freeSpeed network) hValid hDelay s t

/-- A vehicle that comes to the end of the first link may be at the beginning of the last. -/
theorem Pathfinder.result_freeSpeed_adjoining {network : Network α} {query : PathQuery α}
    {first last : Link α} (hFirst : network.link? query.origin = some first)
    (hLast : network.link? query.destination = some last)
    (hDiffer : query.origin ≠ query.destination) (hMeet : first.target = last.source)
    (s : Search α) :
    (((freeSpeed network).find query).run s).result =
      .ok ⟨1 + 0 + last.travelTime, 0 + last.length⟩ := by
  simp only [freeSpeed, known, hFirst, hLast, Session.result_bind, Session.run_pure,
    Session.ok_bind, if_neg hDiffer, answer, Session.run_get, hMeet, Search.between_self]
  rfl

noncomputable section

/-- A crossing of the streets. -/
def exactCrossing (metres : Nat) : Point ℝ := ⟨Scalar.ofNat 0, Scalar.ofNat metres⟩

/-- A street of ten metres that is passed at five metres a second. -/
def exactStreet (id : LinkId) (source target : NodeId) : Link ℝ :=
  ⟨id, source, target, Scalar.ofNat 10, Scalar.ofNat 5⟩

/-- Two streets, the one ending where the other begins. -/
def exactStreets : Network ℝ where
  nodes := (((∅ : Std.TreeMap NodeId (Point ℝ)).insert ⟨"1"⟩ (exactCrossing 0)).insert ⟨"2"⟩
    (exactCrossing 10)).insert ⟨"3"⟩ (exactCrossing 20)
  links := ((∅ : Std.TreeMap LinkId (Link ℝ)).insert ⟨"a"⟩
    (exactStreet ⟨"a"⟩ ⟨"1"⟩ ⟨"2"⟩)).insert ⟨"b"⟩ (exactStreet ⟨"b"⟩ ⟨"2"⟩ ⟨"3"⟩)
  outgoing := ((∅ : Std.TreeMap NodeId (List LinkId)).insert ⟨"1"⟩ [⟨"a"⟩]).insert ⟨"2"⟩ [⟨"b"⟩]

/-- From the one street to the other. -/
def exactRequest : TripRequest ℝ where
  origin := ⟨⟨"a"⟩, some (exactCrossing 0), none⟩
  destination := ⟨⟨"b"⟩, some (exactCrossing 20), none⟩
  departureTime := Scalar.ofNat 60
  traveller := ⟨"p"⟩
  originActivity := "home"
  destinationActivity := "work"

/-- The ride from the one street to the other, a second on the first link and two on the last. -/
def exactRide (settings : ServiceSettings ℝ) : Leg ℝ :=
  Ride.leg settings ⟨⟨"a"⟩, ⟨"b"⟩, Scalar.ofNat 60⟩ ⟨Scalar.ofNat 3, Scalar.ofNat 10⟩

end

theorem validate_exactRequest : exactRequest.validate = .ok () :=
  TripRequest.validate_eq_ok_iff.mpr
    ⟨ExactScalar.isFinite _, Exact.not_ofNat_lt_ofNat (Nat.zero_le 60)⟩

/-- Where no walks are inserted the trip is the ride. -/
theorem route_exactStreets (settings : ServiceSettings ℝ) (hWalks : settings.walksToRide = false)
    (walk : WalkSettings ℝ) (s : Search ℝ) :
    ((Service.route ⟨settings, Teleport.walker exactStreets walk, .anyLink⟩
      (.freeSpeed exactStreets) exactRequest).run s).result =
        .ok ⟨[.leg (exactRide settings)]⟩ := by
  have hPath : (((Pathfinder.freeSpeed exactStreets).find
      (DoorToDoor.query settings exactRequest none)).run s).result =
        .ok ⟨Scalar.ofNat 3, Scalar.ofNat 10⟩ := by
    have hFirst : exactStreets.link? ⟨"a"⟩ = some (exactStreet ⟨"a"⟩ ⟨"1"⟩ ⟨"2"⟩) := rfl
    have hLast : exactStreets.link? ⟨"b"⟩ = some (exactStreet ⟨"b"⟩ ⟨"2"⟩ ⟨"3"⟩) := rfl
    have hDiffer : (⟨"a"⟩ : LinkId) ≠ ⟨"b"⟩ := by decide
    rw [Pathfinder.result_freeSpeed_adjoining hFirst hLast hDiffer rfl s]
    refine congrArg Except.ok (congrArg₂ DirectPath.mk ?_ ?_)
    · change (Scalar.ofNat 1 + Scalar.ofNat 0 + Scalar.ofNat 10 / Scalar.ofNat 5 : ℝ) = _
      norm_num [Exact.ofNat_eq]
    · change (Scalar.ofNat 0 + Scalar.ofNat 10 : ℝ) = _
      norm_num [Exact.ofNat_eq]
  refine DoorToDoor.result_route_eq_ok_iff.mpr
    ⟨.ridden none (exactRide settings) none, .ridden validate_exactRequest (by decide) ?_ hPath rfl
      ?_, rfl⟩
  · simp [DoorToDoor.access?, Transfer.ask, hWalks]
  · simp [DoorToDoor.egress?, Transfer.ask, hWalks]

/-- A ride down the streets half a minute later. -/
theorem route_postpone_exactStreets :
    exactRequest.validate = .ok () ∧
    Scalar.lt (Scalar.ofNat 30 : ℝ) (Scalar.ofNat 0) = false ∧
    ((Service.route ⟨.default, Teleport.walker exactStreets .default, .anyLink⟩
      (.freeSpeed exactStreets) (exactRequest.postpone (Scalar.ofNat 30))).run
        Search.empty).result = .ok ⟨[.leg ((exactRide .default).postpone (Scalar.ofNat 30))]⟩ := by
  have hDelay : Scalar.lt (Scalar.ofNat 30 : ℝ) (Scalar.ofNat 0) = false :=
    Exact.not_ofNat_lt_ofNat (Nat.zero_le 30)
  refine ⟨validate_exactRequest, hDelay, ?_⟩
  rw [Service.route_postpone exactStreets .default .default .anyLink exactRequest
    (Scalar.ofNat 30) validate_exactRequest hDelay Search.empty Search.empty,
    route_exactStreets .default rfl]
  rfl

end DemandRide
