import DemandRide.Proofs.Itinerary.Alternation
import DemandRide.Proofs.Service.Course
import DemandRide.Proofs.Walk.Teleport

/-! The structure of routed trips. The stages of a ride are activities, so a plan splits there
and passes its check exactly if each walk the walker contributed fits between two activities.
A collapsed walk is one leg, whatever the walker returned. -/
namespace DemandRide

open Alternation

variable {σ α : Type}

/-- Whatever the walker returns can stand between two activities. -/
def Walker.WellFormed (walker : Walker α) : Prop :=
  ∀ origin destination time traveller elements,
    walker.walk origin destination time traveller = .ok elements → WellFormedWalk elements

theorem Fallback.map_kind_retag (settings : ServiceSettings α) (elements : List (Element α)) :
    (retag settings elements).map Element.kind = elements.map Element.kind := by
  have hKind (element : Element α) :
      (element.mapLeg (retagLeg settings)).kind = element.kind := by
    cases element <;> rfl
  simp [retag, hKind]

variable [Scalar α]

namespace Course

theorem fits_boarding_append (settings : ServiceSettings α) (access : Option (Transfer α))
    (rest : List (Element α)) :
    Fits ((boarding settings access ++ rest).map Element.kind) ↔
      (∀ transfer ∈ access, WellFormedWalk transfer.walk) ∧ Fits (rest.map Element.kind) := by
  cases access with
  | none => simp [boarding]
  | some transfer =>
      simp only [boarding, List.map_append, List.append_assoc, List.map_cons,
        List.cons_append, List.nil_append, stage, Element.kind, fits_append_activity_cons,
        wellFormedWalk_iff_fits, Option.mem_def, Option.some.injEq, forall_eq']

theorem fits_leg_cons_alighting (settings : ServiceSettings α) (ride : Leg α)
    (egress : Option (Transfer α)) :
    Fits ((.leg ride :: alighting settings egress).map Element.kind) ↔
      ∀ transfer ∈ egress, WellFormedWalk transfer.walk := by
  cases egress with
  | none => simpa [alighting, Element.kind] using fits_leg
  | some transfer =>
      have hSplit := fits_append_activity_cons [.leg] (transfer.walk.map Element.kind)
      simp only [alighting, stage, List.map_cons, Element.kind, Option.mem_def, Option.some.injEq,
        forall_eq', wellFormedWalk_iff_fits]
      exact hSplit.trans (and_iff_right fits_leg)

theorem check_collapsed (settings : ServiceSettings α) (request : TripRequest α)
    (walk : List (Element α)) :
    (request.toPlan ((collapsed walk).trip settings request)).check = .ok () := by
  rw [TripRequest.toPlan, check_toPlan_eq_ok_iff]
  exact fits_leg

/-- Both directions at once: the plan of a trip that keeps its walks passes exactly if each of
the walks is well formed. -/
theorem check_trip_eq_ok_iff (settings : ServiceSettings α) (request : TripRequest α)
    (course : Course α) (hKept : ∀ walk, course ≠ .collapsed walk) :
    (request.toPlan (course.trip settings request)).check = .ok () ↔
      ∀ walk ∈ course.walks, WellFormedWalk walk := by
  rw [TripRequest.toPlan, check_toPlan_eq_ok_iff]
  cases course with
  | collapsed walk => exact absurd rfl (hKept walk)
  | walked walk =>
      rw [trip, Fallback.map_kind_retag, ← wellFormedWalk_iff_fits]
      simp [walks]
  | ridden access ride egress =>
      rw [trip, fits_boarding_append, fits_leg_cons_alighting]
      cases access <;> cases egress <;> simp [walks]

/-- What is said of a trip that can come about in one way only. -/
theorem exists_only {settings : ServiceSettings α} {request : TripRequest α}
    {takes : Course α → Prop} {course : Course α} (hTakes : takes course)
    (hUnique : ∀ other, takes other → other = course) (hKept : ∀ walk, course ≠ .collapsed walk) :
    ∃ only, (∀ other, takes other ↔ other = only) ∧
      only.trip settings request = course.trip settings request ∧
      ((request.toPlan (course.trip settings request)).check = .ok () ↔
        ∀ walk ∈ only.walks, WellFormedWalk walk) := by
  refine ⟨course, fun other => ⟨hUnique other, ?_⟩, rfl,
    check_trip_eq_ok_iff settings request course hKept⟩
  rintro rfl
  exact hTakes

end Course

/-- The walks of a trip from door to door are answers of the walker. -/
theorem DoorToDoor.Takes.exists_walk {settings : ServiceSettings α} {walker : Walker α}
    {finder : Pathfinder σ α} {request : TripRequest α} {s : σ} {course : Course α}
    (h : Takes settings walker finder request s course) :
    ∀ walk ∈ course.walks, ∃ origin destination time,
      walker.walk origin destination time request.traveller = .ok walk := by
  cases h with
  | collapsed _ _ hWalk =>
      intro walk hMem
      obtain rfl := List.mem_singleton.mp hMem
      exact ⟨_, _, _, hWalk⟩
  | ridden _ _ hAccess _ _ hEgress =>
      intro walk hMem
      rcases List.mem_append.mp hMem with hMem | hMem
      · obtain ⟨transfer, hTransfer, rfl⟩ := Option.mem_map.mp (Option.mem_toList.mp hMem)
        exact ⟨_, _, _, (Transfer.of_ask hAccess transfer hTransfer).2⟩
      · obtain ⟨transfer, hTransfer, rfl⟩ := Option.mem_map.mp (Option.mem_toList.mp hMem)
        exact ⟨_, _, _, (Transfer.of_ask hEgress transfer hTransfer).2⟩

/-- The walks of a trip by way of stops are answers of the walker. -/
theorem ViaStops.Takes.exists_walk {settings : ServiceSettings α} {walker : Walker α}
    {stops : StopFinder α} {finder : Pathfinder σ α} {request : TripRequest α} {s : σ}
    {course : Course α} (h : Takes settings walker stops finder request s course) :
    ∀ walk ∈ course.walks, ∃ origin destination time,
      walker.walk origin destination time request.traveller = .ok walk := by
  cases h with
  | walked _ _ _ hWalk =>
      intro walk hMem
      obtain rfl := List.mem_singleton.mp hMem
      exact ⟨_, _, _, hWalk⟩
  | ridden _ _ _ hToStop _ _ hFromStop =>
      intro walk hMem
      simp only [Course.walks, Option.map_some, Option.toList_some, List.cons_append,
        List.nil_append, List.mem_cons, List.not_mem_nil, or_false] at hMem
      rcases hMem with rfl | rfl
      · exact ⟨_, _, _, hToStop⟩
      · exact ⟨_, _, _, hFromStop⟩

/-- A trip from door to door between two links is told from one course alone, and its plan
passes exactly if the walks of that course are well formed. -/
theorem DoorToDoor.exists_course {settings : ServiceSettings α} {walker : Walker α}
    {finder : Pathfinder σ α} {request : TripRequest α} {s : σ} {trip : Trip α}
    (hLink : request.origin.link ≠ request.destination.link)
    (hTrip : ((route settings walker finder request).run s).result = .ok trip) :
    ∃ course, (∀ other, Takes settings walker finder request s other ↔ other = course) ∧
      course.trip settings request = trip ∧
      ((request.toPlan trip).check = .ok () ↔ ∀ walk ∈ course.walks, WellFormedWalk walk) := by
  obtain ⟨course, hTakes, rfl⟩ := result_route_eq_ok_iff.mp hTrip
  refine Course.exists_only hTakes (fun other hOther => hOther.unique hTakes) ?_
  rintro walk rfl
  cases hTakes with
  | collapsed _ hSame => exact hLink hSame

/-- Within one link the walk is told as one leg, so that nothing in it can be misplaced. -/
theorem DoorToDoor.check_of_same_link {settings : ServiceSettings α} {walker : Walker α}
    {finder : Pathfinder σ α} {request : TripRequest α} {s : σ} {trip : Trip α}
    (hLink : request.origin.link = request.destination.link)
    (hTrip : ((route settings walker finder request).run s).result = .ok trip) :
    (request.toPlan trip).check = .ok () := by
  obtain ⟨course, hTakes, rfl⟩ := result_route_eq_ok_iff.mp hTrip
  cases hTakes with
  | collapsed _ _ hWalk => exact Course.check_collapsed ..
  | ridden _ hDiffer => exact absurd hLink hDiffer

/-- A trip by way of stops, ridden or walked, is told from one course alone, and its plan
passes exactly if the walks of that course are well formed. -/
theorem ViaStops.exists_course {settings : ServiceSettings α} {walker : Walker α}
    {stops : StopFinder α} {finder : Pathfinder σ α} {request : TripRequest α} {s : σ}
    {trip : Trip α}
    (hTrip : ((route settings walker stops finder request).run s).result = .ok trip) :
    ∃ course, (∀ other, Takes settings walker stops finder request s other ↔ other = course) ∧
      course.trip settings request = trip ∧
      ((request.toPlan trip).check = .ok () ↔ ∀ walk ∈ course.walks, WellFormedWalk walk) := by
  obtain ⟨course, hTakes, rfl⟩ := result_route_eq_ok_iff.mp hTrip
  refine Course.exists_only hTakes (fun other hOther => hOther.unique hTakes) ?_
  rintro walk rfl
  cases hTakes

/-- With a walker whose walks are well formed, every trip of a service passes the check. -/
theorem Service.check_of_route {service : Service α} {finder : Pathfinder σ α}
    {request : TripRequest α} {s : σ} {trip : Trip α} (hWalker : service.walker.WellFormed)
    (hTrip : ((service.route finder request).run s).result = .ok trip) :
    (request.toPlan trip).check = .ok () := by
  have hWalks {course : Course α} (hAnswered : ∀ walk ∈ course.walks, ∃ origin destination time,
      service.walker.walk origin destination time request.traveller = .ok walk) :
      (request.toPlan (course.trip service.settings request)).check = .ok () := by
    by_cases hKept : ∀ walk, course ≠ .collapsed walk
    · rw [Course.check_trip_eq_ok_iff _ _ _ hKept]
      intro walk hMem
      obtain ⟨origin, destination, time, hWalk⟩ := hAnswered walk hMem
      exact hWalker _ _ _ _ _ hWalk
    · obtain ⟨walk, rfl⟩ := not_forall_not.mp hKept
      exact Course.check_collapsed ..
  unfold route at hTrip
  split at hTrip
  · obtain ⟨course, hTakes, rfl⟩ := DoorToDoor.result_route_eq_ok_iff.mp hTrip
    exact hWalks hTakes.exists_walk
  · obtain ⟨course, hTakes, rfl⟩ := ViaStops.result_route_eq_ok_iff.mp hTrip
    exact hWalks hTakes.exists_walk

theorem Teleport.wellFormed_walker {α : Type} [Plane α] (network : Network α)
    (settings : WalkSettings α) : (walker network settings).WellFormed :=
  fun _ _ _ _ _ => wellFormedWalk_of_route

theorem Service.wellFormed_walker_of_start {α : Type} [Plane α] {network : Network α}
    {walk : WalkSettings α} {settings : ServiceSettings α} {stops : Option (StopFinder α)}
    {service : Service α}
    (hStart : start settings (Teleport.walker network walk) stops = .ok service) :
    service.walker.WellFormed := by
  obtain ⟨-, -, hWalker, -⟩ := start_eq_ok_iff.mp hStart
  rw [hWalker]
  exact Teleport.wellFormed_walker network walk

end DemandRide
