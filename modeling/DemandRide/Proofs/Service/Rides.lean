import DemandRide.Proofs.Service.Queries

/-! How long trips take. With settings in range a ride takes no less than the direct path, walks
over the network take no negative time, and so the clock of a trip never runs back. -/
namespace DemandRide

open Scalar

variable {σ α : Type}

/-- No element takes negative time. -/
def Onward [Scalar α] (elements : List (Element α)) : Prop :=
  ∀ element ∈ elements, lt element.duration 0 = false

theorem Fallback.onward_retag [Scalar α] (settings : ServiceSettings α)
    {elements : List (Element α)} (h : Onward elements) : Onward (retag settings elements) := by
  intro element hElement
  obtain ⟨original, hOriginal, rfl⟩ := List.mem_map.mp hElement
  have hDuration : (original.mapLeg (retagLeg settings)).duration = original.duration := by
    cases original with
    | activity activity => rfl
    | leg leg =>
        change (retagLeg settings leg).travelTime = leg.travelTime
        unfold retagLeg
        split <;> rfl
  rw [hDuration]
  exact h original hOriginal

section Settings

variable [Scalar α]

/-- The bound on rides of valid settings adds to a multiple of at least once the direct time. -/
theorem ServiceSettings.bound_of_validate {settings : ServiceSettings α}
    (h : settings.validate = .ok ()) :
    lt settings.alpha 1 = false ∧ lt settings.beta 0 = false := by
  unfold validate at h
  split at h
  · cases h
  · split at h
    · cases h
    · split at h
      · cases h
      · simp_all

/-- Valid walks have a positive speed and are no shorter than the beeline. -/
theorem WalkSettings.range_of_validate [OrderedScalar α] {settings : WalkSettings α}
    (h : settings.validate = .ok ()) :
    lt 0 settings.speed ∧ lt settings.beelineFactor 1 = false := by
  unfold validate at h
  split at h
  · cases h
  · split at h
    · cases h
    · rename_i hSpeed hFactor
      rw [Bool.not_eq_true, Bool.or_eq_false_iff, Bool.not_eq_false'] at hSpeed hFactor
      exact ⟨OrderedScalar.zero_lt_of_le_false (OrderedScalar.isNaN_of_isFinite hSpeed.1)
        hSpeed.2, hFactor.2⟩

end Settings

/-- With valid settings, walks over the network take no negative time. -/
theorem Teleport.onward_walk [Plane α] [OrderedPlane α] {network : Network α}
    {settings : WalkSettings α} (hSettings : settings.validate = .ok ())
    {origin destination : Location α} {time : α} {traveller : TravellerId}
    {elements : List (Element α)}
    (hWalk : (walker network settings).walk origin destination time traveller = .ok elements) :
    Onward elements := by
  obtain ⟨hSpeed, hFactor⟩ := WalkSettings.range_of_validate hSettings
  intro element hElement
  obtain ⟨_, _, _, start, goal, _, rfl⟩ | ⟨place, rfl⟩ := mem_route hWalk hElement
  · exact OrderedScalar.not_div_lt_zero (OrderedScalar.not_mul_lt_zero
      (OrderedPlane.not_beeline_lt_zero start goal)
      (OrderedScalar.not_lt_zero_of_not_lt_one hFactor)) hSpeed
  · exact OrderedScalar.lt_irrefl 0

variable [Scalar α] [OrderedScalar α]

namespace Element

/-- The clock is not turned back by an element that takes no negative time. -/
theorem notAfter_advance {time : α} {element : Element α} (h : lt element.duration 0 = false) :
    NotAfter time (advance time element) :=
  .add h

/-- From where it starts a clock that is never turned back only goes on. -/
theorem notAfter_advanceOver {time : α} {elements : List (Element α)} (h : Onward elements) :
    NotAfter time (advanceOver time elements) := by
  induction elements generalizing time with
  | nil => exact .refl time
  | cons element rest ih =>
      obtain ⟨hFirst, hRest⟩ := List.forall_mem_cons.mp h
      exact (notAfter_advance hFirst).trans (ih hRest)

theorem notAfter_of_mem_readings {time : α} {elements : List (Element α)} (h : Onward elements) :
    ∀ reading ∈ readings time elements, NotAfter time reading := by
  induction elements generalizing time with
  | nil =>
      intro reading hReading
      obtain rfl := List.mem_singleton.mp hReading
      exact .refl reading
  | cons element rest ih =>
      obtain ⟨hFirst, hRest⟩ := List.forall_mem_cons.mp h
      refine List.forall_mem_cons.mpr ⟨.refl time, fun reading hReading => ?_⟩
      exact (notAfter_advance hFirst).trans (ih hRest reading hReading)

/-- Its readings are in order. -/
theorem pairwise_readings {time : α} {elements : List (Element α)} (h : Onward elements) :
    (readings time elements).Pairwise NotAfter := by
  induction elements generalizing time with
  | nil => exact List.pairwise_singleton _ _
  | cons element rest ih =>
      obtain ⟨hFirst, hRest⟩ := List.forall_mem_cons.mp h
      refine List.pairwise_cons.mpr ⟨fun reading hReading => ?_, ih hRest⟩
      exact (notAfter_advance hFirst).trans (notAfter_of_mem_readings hRest reading hReading)

end Element

/-- A stage lasts a second. -/
theorem Course.not_stage_lt_zero (settings : ServiceSettings α) (place : Location α) :
    lt (stage settings place).duration 0 = false :=
  OrderedScalar.lt_asymm OrderedScalar.zero_lt_one

/-- A trip takes no negative time anywhere if neither its walks nor its ride do. -/
theorem Course.onward_trip {settings : ServiceSettings α} {request : TripRequest α}
    {course : Course α} (hWalks : ∀ walk ∈ course.walks, Onward walk)
    (hRide : ∀ ride ∈ course.ride?, lt ride.travelTime 0 = false) :
    Onward (course.trip settings request).elements := by
  cases course with
  | collapsed walk =>
      refine List.forall_mem_singleton.mpr ?_
      exact (Element.notAfter_advanceOver (hWalks walk (.head _))).1
  | walked walk => exact Fallback.onward_retag settings (hWalks walk (.head _))
  | ridden access ride egress =>
      refine List.forall_mem_append.mpr ⟨?_, List.forall_mem_cons.mpr ⟨hRide ride rfl, ?_⟩⟩
      · cases access with
        | none => exact List.forall_mem_nil _
        | some transfer =>
            exact List.forall_mem_append.mpr ⟨hWalks transfer.walk (.head _),
              List.forall_mem_singleton.mpr (not_stage_lt_zero settings transfer.place)⟩
      · cases egress with
        | none => exact List.forall_mem_nil _
        | some transfer =>
            exact List.forall_mem_cons.mpr ⟨not_stage_lt_zero settings transfer.place,
              hWalks transfer.walk (by simp [walks])⟩

/-- A path over a network takes no negative time. -/
theorem Pathfinder.not_travelTime_lt_zero {network : Network α} (built : network.Built)
    {query : PathQuery α} {s : Search α} {path : DirectPath α}
    (hPath : (((freeSpeed network).find query).run s).result = .ok path) :
    lt path.travelTime 0 = false := by
  obtain ⟨hOrigin, hDestination⟩ := known_of_freeSpeed hPath
  by_cases hLink : query.origin = query.destination
  · obtain ⟨last, hLast⟩ := Option.isSome_iff_exists.mp hDestination
    have hStay : (((freeSpeed network).find query).run s).result = .ok ⟨1, 0⟩ := by
      simp [freeSpeed, known, hLast, hLink, Session.run_bind]
    cases hStay.symm.trans hPath
    exact OrderedScalar.lt_asymm OrderedScalar.zero_lt_one
  · rcases find_freeSpeed built query hOrigin hDestination hLink s with
      ⟨_, hFound, hTime, -⟩ | ⟨hMissed, -⟩
    · cases hFound.symm.trans hPath
      exact hTime
    · cases hMissed.symm.trans hPath

/-- A ride whose direct path takes no negative time takes none either. -/
theorem ServiceSettings.not_maxTravelTime_lt_zero {settings : ServiceSettings α}
    (hSettings : settings.validate = .ok ()) {time : α} (hTime : lt time 0 = false) :
    lt (settings.maxTravelTime time) 0 = false := by
  obtain ⟨hAlpha, hBeta⟩ := bound_of_validate hSettings
  exact OrderedScalar.not_add_lt_zero (OrderedScalar.not_mul_lt_zero
    (OrderedScalar.not_lt_zero_of_not_lt_one hAlpha) hTime) hBeta

/-- What a ride is made of: a query between two links, the answer to it, and the bound that the
settings put on the direct time. -/
structure RidesAlong (settings : ServiceSettings α) (query : PathQuery α) (path : DirectPath α)
    (ride : Leg α) : Prop where
  start : ride.startLink = query.origin
  goal : ride.endLink = query.destination
  differ : query.origin ≠ query.destination
  departure : ride.departureTime = query.departureTime
  length : ride.distance = some path.distance
  terms : ride.ride = some ⟨path.distance, path.travelTime, ride.travelTime, settings.maxWaitTime⟩
  bound : ride.travelTime = settings.alpha * path.travelTime + settings.beta
  /-- The ride takes no less than the direct path. -/
  notShorter : lt path.travelTime 0 = false → lt ride.travelTime path.travelTime = false
  /-- Where both times are numbers it takes as much or more. -/
  atLeast : lt path.travelTime 0 = false → isNaN path.travelTime = false →
    isNaN ride.travelTime = false → le path.travelTime ride.travelTime

theorem Ride.ridesAlong_leg {settings : ServiceSettings α} (hSettings : settings.validate = .ok ())
    {query : PathQuery α} (hDiffer : query.origin ≠ query.destination) (path : DirectPath α) :
    RidesAlong settings query path (leg settings query path) := by
  obtain ⟨hAlpha, hBeta⟩ := ServiceSettings.bound_of_validate hSettings
  have hBound (hTime : lt path.travelTime 0 = false) :
      lt (leg settings query path).travelTime path.travelTime = false :=
    OrderedScalar.not_mul_add_lt hAlpha hBeta hTime
  exact ⟨rfl, rfl, hDiffer, rfl, rfl, rfl, rfl, hBound,
    fun hTime hPath hRide => OrderedScalar.le_of_not_lt hRide hPath (hBound hTime)⟩

/-- Routing a request asks for at most one path, and for none if the request is refused or
walked. A trip rides as often as a path was asked for, along the answer, and no faster. With walks
over a network that was built and paths found in it, no element of a trip takes negative time, so
that its clock never runs back, from whenever it is started. -/
theorem Service.rides_of_route {α : Type} [Plane α] [OrderedPlane α]
    {settings : ServiceSettings α} {walker : Walker α} {stops : Option (StopFinder α)}
    {service : Service α} (hStart : start settings walker stops = .ok service)
    (request : TripRequest α) :
    (∀ (finder : Pathfinder σ α) (s : σ), walker.OnFoot →
      let outcome := (service.route finder.recorded request).run (s, [])
      let asked := outcome.state.2
      asked.length ≤ 1 ∧
      (request.validate ≠ .ok () ∨ (∀ a b, ¬service.Offers request a b) → asked = []) ∧
      ∀ trip, outcome.result = .ok trip →
        trip.rideLegs.length = asked.length ∧
        ∀ ride ∈ trip.rideLegs, ∃ query path, asked = [query] ∧
          ((finder.find query).run s).result = .ok path ∧ RidesAlong settings query path ride) ∧
    ∀ (plan : NetworkPlan α) (network : Network α) (walk : WalkSettings α) (s : Search α)
        (trip : Trip α),
      plan.build = .ok network → walk.validate = .ok () → walker = Teleport.walker network walk →
      ((service.route (.freeSpeed network) request).run s).result = .ok trip →
      (∀ element ∈ trip.elements, lt element.duration 0 = false) ∧
        ∀ start, (trip.timeline start).Pairwise fun earlier later => lt later earlier = false := by
  obtain ⟨hSettings, rfl, rfl, -⟩ := start_eq_ok_iff.mp hStart
  refine ⟨fun finder s hWalker => ?asked, ?onward⟩
  case asked =>
    intro outcome asked
    have hAsked : asked = (service.asks? request).toList := by
      change ((service.route finder.recorded request).run (s, [])).state.2 = _
      rw [state_route]
      cases service.asks? request <;> rfl
    refine ⟨hAsked ▸ Option.length_toList_le, fun hWalked => ?_, fun trip hTrip => ?_⟩
    · cases hQuery : service.asks? request with
      | none => rw [hAsked, hQuery, Option.toList_none]
      | some query =>
          obtain ⟨hValid, hOffers⟩ := offers_of_asks? hQuery
          rcases hWalked with hRefused | hNone
          · exact absurd hValid hRefused
          · exact absurd hOffers (hNone _ _)
    · obtain ⟨course, rfl, hWalks, hRides⟩ := exists_course hTrip
      have hOnFoot : ∀ walk ∈ course.walks, OnFoot walk := by
        intro walk hWalk
        obtain ⟨_, _, _, hAnswer⟩ := hWalks walk hWalk
        exact hWalker _ _ _ _ _ hAnswer
      rw [Course.rideLegs_trip hOnFoot hRides.isRide, hAsked]
      refine ⟨hRides.length_eq, fun ride hRide => ?_⟩
      obtain ⟨query, path, hQuery, hPath, rfl⟩ := hRides.exists_path (Option.mem_toList.mp hRide)
      have hDiffer := (offers_of_asks? hQuery).2.differ
      exact ⟨query, path, by rw [hQuery, Option.toList_some], hPath,
        Ride.ridesAlong_leg hSettings hDiffer path⟩
  case onward =>
    intro plan network walk s trip hBuild hWalk hWalker hTrip
    have built := Network.built_of_build hBuild
    obtain ⟨course, rfl, hWalks, hRides⟩ := exists_course hTrip
    have hOnward : Onward (course.trip service.settings request).elements := by
      refine Course.onward_trip (fun elements hElements => ?_) fun ride hRide => ?_
      · obtain ⟨_, _, _, hAnswer⟩ := hWalks elements hElements
        rw [hWalker] at hAnswer
        exact Teleport.onward_walk hWalk hAnswer
      · obtain ⟨query, path, -, hPath, rfl⟩ := hRides.exists_path hRide
        exact ServiceSettings.not_maxTravelTime_lt_zero hSettings
          (Pathfinder.not_travelTime_lt_zero built hPath)
    exact ⟨hOnward, fun start => (Element.pairwise_readings hOnward).imp And.left⟩

/-- The trip down the streets is one ride. -/
theorem rides_of_route_streets :
    ∃ trip, (((streetService .doorToDoor .anyLink).route (.freeSpeed streetNetwork)
        southboundRequest).run Search.empty).result = .ok trip ∧
      trip.rideLegs.length = 1 ∧
      (∀ ride ∈ trip.rideLegs, ∃ path,
        RidesAlong ServiceSettings.default ⟨⟨"a"⟩, ⟨"b"⟩, 60⟩ path ride) ∧
      (trip.timeline 60).Pairwise fun earlier later => lt later earlier = false := by
  have hStart : Service.start .default (Teleport.walker streetNetwork .default) none =
      .ok (streetService .doorToDoor .anyLink) := by
    rfl
  obtain ⟨hAsked, hOnward⟩ := Service.rides_of_route hStart southboundRequest
  obtain ⟨-, -, hRides⟩ :=
    hAsked (.freeSpeed streetNetwork) Search.empty (Teleport.onFoot_walker _ _)
  have hOnce : (((streetService .doorToDoor .anyLink).route
      (Pathfinder.freeSpeed streetNetwork).recorded southboundRequest).run
        (Search.empty, [])).state.2 = [⟨⟨"a"⟩, ⟨"b"⟩, 60⟩] := by
    rfl
  refine ⟨_, rfl, (hRides _ rfl).1, fun ride hRide => ?_, ?_⟩
  · obtain ⟨query, path, hQuery, -, hAlong⟩ := (hRides _ rfl).2 ride hRide
    cases hOnce.symm.trans hQuery
    exact ⟨path, hAlong⟩
  · have hClock := hOnward streets streetNetwork .default Search.empty _ build_streets (by rfl)
      rfl rfl
    exact hClock.2 60

end DemandRide
