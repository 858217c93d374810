import DemandRide.Plane.Binary64
import DemandRide.Proofs.Service.Course
import DemandRide.Proofs.Walk.Teleport

/-! When the legs of a trip depart. With a walker that keeps time, every leg of a trip departs
by the clock of its traveller, except that a ride between stops departs with the trip. The
clock of what follows such a ride is the same as if the ride had waited for the walk. -/
namespace DemandRide

variable {σ α : Type} [Scalar α]

namespace Course

variable {settings : ServiceSettings α} {time : α}

theorem punctual_boarding {access : Option (Transfer α)}
    (hWalk : ∀ transfer ∈ access, Punctual time transfer.walk) :
    Punctual time (boarding settings access) := by
  cases access with
  | none => exact punctual_nil time
  | some transfer =>
      have hStage := punctual_singleton_activity (Element.advanceOver time transfer.walk)
        (.stage settings.stageType transfer.place)
      exact (punctual_append _ _ _).mpr ⟨hWalk transfer rfl, hStage⟩

theorem punctual_alighting {egress : Option (Transfer α)}
    (hWalk : ∀ transfer ∈ egress,
      Punctual (Element.advance time (stage settings transfer.place)) transfer.walk) :
    Punctual time (alighting settings egress) := by
  cases egress with
  | none => exact punctual_nil time
  | some transfer =>
      have hStage := punctual_singleton_activity time (.stage settings.stageType transfer.place)
      exact (punctual_cons _ _ _).mpr ⟨hStage, hWalk transfer rfl⟩

theorem punctual_collapsed (settings : ServiceSettings α) (request : TripRequest α)
    (walk : List (Element α)) :
    Punctual request.departureTime ((collapsed walk).trip settings request).elements :=
  (punctual_singleton_leg _ _).mpr rfl

/-- The legs of a walk that is kept depart when the walker says so. -/
theorem punctual_walked {request : TripRequest α} {walk : List (Element α)}
    (hWalk : Punctual request.departureTime walk) :
    Punctual request.departureTime ((walked walk).trip settings request).elements := by
  have hTimes (leg : Leg α) : (Fallback.retagLeg settings leg).departureTime = leg.departureTime ∧
      (Fallback.retagLeg settings leg).travelTime = leg.travelTime := by
    unfold Fallback.retagLeg
    split <;> exact ⟨rfl, rfl⟩
  exact hWalk.map_mapLeg (fun leg => (hTimes leg).1) fun leg => (hTimes leg).2

end Course

/-- Every leg of a trip from door to door departs by the clock. -/
theorem DoorToDoor.Takes.punctual {settings : ServiceSettings α} {walker : Walker α}
    {finder : Pathfinder σ α} {request : TripRequest α} {s : σ} {course : Course α}
    (hWalker : walker.KeepsTime) (h : Takes settings walker finder request s course) :
    Punctual request.departureTime (course.trip settings request).elements := by
  cases h with
  | collapsed _ _ _ => exact Course.punctual_collapsed settings request _
  | @ridden access egress path ride _ _ hAccess _ hRide hEgress =>
      have hBoarding : Punctual request.departureTime (Course.boarding settings access) := by
        refine Course.punctual_boarding fun transfer hTransfer => ?_
        exact hWalker _ _ _ _ _ (Transfer.of_ask hAccess transfer hTransfer).2
      have hDeparture : ride.departureTime =
          Element.advanceOver request.departureTime (Course.boarding settings access) := by
        rw [hRide]
        rfl
      have hAlighting : Punctual
          (Element.advance (query settings request access).departureTime (.leg ride))
          (Course.alighting settings egress) := by
        refine Course.punctual_alighting fun transfer hTransfer => ?_
        obtain ⟨hPlace, hAnswer⟩ := Transfer.of_ask hEgress transfer hTransfer
        rw [hPlace]
        exact hWalker _ _ _ _ _ hAnswer
      refine (punctual_append _ _ _).mpr ⟨hBoarding, (punctual_cons _ _ _).mpr ⟨?_, hAlighting⟩⟩
      exact (punctual_singleton_leg _ _).mpr hDeparture

section Stops

variable {settings : ServiceSettings α} {walker : Walker α} {stops : StopFinder α}
  {finder : Pathfinder σ α} {request : TripRequest α} {s : σ}
  {toStop fromStop : List (Element α)} {access egress : Location α} {ride : Leg α}

theorem Course.getElem?_ride :
    ((ridden (some ⟨toStop, access⟩) ride (some ⟨fromStop, egress⟩)).trip settings
      request).elements[toStop.length + 1]? = some (.leg ride) := by
  have hLength : (boarding settings (some ⟨toStop, access⟩)).length = toStop.length + 1 := by
    simp [boarding]
  rw [trip, ← hLength, List.getElem?_append_right (Nat.le_refl _), Nat.sub_self]
  rfl

/-- Whoever alights from a ride has walked to the stop, boarded, ridden and alighted. -/
theorem Course.getElem?_timeline_alighted :
    (((ridden (some ⟨toStop, access⟩) ride (some ⟨fromStop, egress⟩)).trip settings
        request).timeline request.departureTime)[toStop.length + 3]? =
      some (Element.advanceOver request.departureTime toStop + 1 + ride.travelTime + 1) := by
  have hElements : ((ridden (some ⟨toStop, access⟩) ride (some ⟨fromStop, egress⟩)).trip
      settings request).elements =
        (toStop ++ [stage settings access, .leg ride, stage settings egress]) ++ fromStop := by
    simp [trip, boarding, alighting]
  have hLength : (toStop ++ [stage settings access, .leg ride, stage settings egress]).length =
      toStop.length + 3 := by
    simp
  rw [Trip.timeline, hElements, ← hLength, Element.getElem?_readings _ _ _ (by simp),
    List.take_left, Element.advanceOver_append]
  rfl

/-- The legs of a trip by way of stops depart by the clock, but for the ride, which departs
with the trip. -/
theorem ViaStops.Takes.departures (hWalker : walker.KeepsTime)
    (h : Takes settings walker stops finder request s
      (.ridden (some ⟨toStop, access⟩) ride (some ⟨fromStop, egress⟩))) :
    ride.departureTime = request.departureTime ∧
      ∀ i ≠ toStop.length + 1, PunctualAt request.departureTime
        ((Course.ridden (some ⟨toStop, access⟩) ride (some ⟨fromStop, egress⟩)).trip settings
          request).elements i := by
  obtain ⟨hRide, hToStop, hFromStop⟩ : ride.departureTime = request.departureTime ∧
      Punctual request.departureTime toStop ∧
      Punctual (Element.advanceOver request.departureTime
        (toStop ++ [Course.stage settings access, .leg ride, Course.stage settings egress]))
        fromStop := by
    cases h with
    | ridden _ _ _ hToStop _ hRide hFromStop =>
        refine ⟨?_, hWalker _ _ _ _ _ hToStop, hWalker _ _ _ _ _ hFromStop⟩
        rw [hRide]
        rfl
  have hBoarding : Punctual request.departureTime
      (Course.boarding settings (some ⟨toStop, access⟩)) := by
    refine Course.punctual_boarding fun transfer hTransfer => ?_
    cases hTransfer
    exact hToStop
  have hAlighting : Punctual
      (Element.advance (Element.advanceOver request.departureTime
        (Course.boarding settings (some ⟨toStop, access⟩))) (.leg ride))
      (Course.alighting settings (some ⟨fromStop, egress⟩)) := by
    refine Course.punctual_alighting fun transfer hTransfer => ?_
    cases hTransfer
    rw [Element.advanceOver_append] at hFromStop
    rw [Course.boarding, Element.advanceOver_append]
    exact hFromStop
  refine ⟨hRide, fun i hOther => punctualAt_append_cons hBoarding hAlighting ?_⟩
  intro hIndex
  exact hOther (by simpa [Course.boarding] using hIndex)

end Stops

/-- With a walker that keeps time, such as one whose walks are teleported, every leg of a trip
departs when the clock of the trip says so. Only a ride between stops departs with the trip;
the clock of what follows it still counts the walk to the stop, both stages and the ride. -/
theorem departures_of_routed_trips {σ α : Type} [Plane α] :
    (∀ (network : Network α) (settings : WalkSettings α),
      (Teleport.walker network settings).KeepsTime) ∧
    (∀ (settings : ServiceSettings α) (walker : Walker α) (finder : Pathfinder σ α)
        (request : TripRequest α) (s : σ) (trip : Trip α),
      walker.KeepsTime →
      ((DoorToDoor.route settings walker finder request).run s).result = .ok trip →
      ∀ (i : Nat) (leg : Leg α), trip.elements[i]? = some (.leg leg) →
        (trip.timeline request.departureTime)[i]? = some leg.departureTime) ∧
    (∀ (settings : ServiceSettings α) (walker : Walker α) (stops : StopFinder α)
        (finder : Pathfinder σ α) (request : TripRequest α) (s : σ) (trip : Trip α),
      walker.KeepsTime →
      ((ViaStops.route settings walker stops finder request).run s).result = .ok trip →
      (∃ walk, ViaStops.Takes settings walker stops finder request s (.walked walk) ∧
        trip = (Course.walked walk).trip settings request ∧
        ∀ (i : Nat) (leg : Leg α), trip.elements[i]? = some (.leg leg) →
          (trip.timeline request.departureTime)[i]? = some leg.departureTime) ∨
      (∃ toStop fromStop access egress ride,
        ViaStops.Takes settings walker stops finder request s
          (.ridden (some ⟨toStop, access⟩) ride (some ⟨fromStop, egress⟩)) ∧
        trip = (Course.ridden (some ⟨toStop, access⟩) ride (some ⟨fromStop, egress⟩)).trip
          settings request ∧
        trip.elements[toStop.length + 1]? = some (.leg ride) ∧
        ride.departureTime = request.departureTime ∧
        (∀ (i : Nat) (leg : Leg α), i ≠ toStop.length + 1 →
          trip.elements[i]? = some (.leg leg) →
          (trip.timeline request.departureTime)[i]? = some leg.departureTime) ∧
        (trip.timeline request.departureTime)[toStop.length + 3]? =
          some (Element.advanceOver request.departureTime toStop + 1 + ride.travelTime + 1))) := by
  refine ⟨Teleport.keepsTime_walker, ?doors, ?stops⟩
  case doors =>
    intro settings walker finder request s trip hWalker hTrip i leg hLeg
    obtain ⟨course, hTakes, rfl⟩ := DoorToDoor.result_route_eq_ok_iff.mp hTrip
    exact (hTakes.punctual hWalker i).getElem?_readings hLeg
  case stops =>
    intro settings walker stops finder request s trip hWalker hTrip
    obtain ⟨course, hTakes, rfl⟩ := ViaStops.result_route_eq_ok_iff.mp hTrip
    cases id hTakes with
    | walked _ _ _ hWalk =>
        refine .inl ⟨_, hTakes, rfl, fun i leg hLeg => ?_⟩
        exact (Course.punctual_walked (hWalker _ _ _ _ _ hWalk) i).getElem?_readings hLeg
    | ridden =>
        obtain ⟨hRide, hOthers⟩ := hTakes.departures hWalker
        refine .inr ⟨_, _, _, _, _, hTakes, rfl, Course.getElem?_ride, hRide, ?_,
          Course.getElem?_timeline_alighted⟩
        intro i leg hOther hLeg
        exact (hOthers i hOther).getElem?_readings hLeg

def northStop : Stop Float := ⟨⟨"north"⟩, ⟨"a"⟩, ⟨0, 3⟩⟩

def southStop : Stop Float := ⟨⟨"south"⟩, ⟨"b"⟩, ⟨0, 9⟩⟩

/-- A request from near the one stop to near the other. -/
def southboundRequest : TripRequest Float where
  origin := ⟨⟨"a"⟩, some ⟨0, 0⟩, none⟩
  destination := ⟨⟨"b"⟩, some ⟨0, 12⟩, none⟩
  departureTime := 60
  traveller := ⟨"p"⟩
  originActivity := "home"
  destinationActivity := "work"

/-- The ride between the stops along a direct path of ten seconds. -/
def southboundRide : Leg Float := Ride.leg .default ⟨⟨"a"⟩, ⟨"b"⟩, 60⟩ ⟨10, 100⟩

/-- The walk to the first stop. -/
def northWalk : List (Element Float) :=
  [.leg (Teleport.leg .default walkMode ⟨"a"⟩ ⟨"a"⟩ ⟨0, 0⟩ ⟨0, 3⟩ 60)]

/-- The walk from the second stop. -/
def southWalk : List (Element Float) :=
  [.leg (Teleport.leg .default walkMode ⟨"b"⟩ ⟨"b"⟩ ⟨0, 9⟩ ⟨0, 12⟩
    (Element.advanceOver 60 (northWalk ++ [Course.stage .default northStop.location,
      .leg southboundRide, Course.stage .default southStop.location])))]

def southboundTrip : Trip Float :=
  (Course.ridden (some ⟨northWalk, northStop.location⟩) southboundRide
    (some ⟨southWalk, southStop.location⟩)).trip .default southboundRequest

/-- The same ride without stops and between them: only there it leaves before its traveller is
at the stop. -/
theorem departures_southbound :
    (∀ (i : Nat) (leg : Leg Float), [Element.leg southboundRide][i]? = some (.leg leg) →
      (Trip.timeline ⟨[Element.leg southboundRide]⟩ 60)[i]? = some leg.departureTime) ∧
    southboundTrip.elements[2]? = some (.leg southboundRide) ∧
    southboundRide.departureTime = 60 ∧
    (∀ (i : Nat) (leg : Leg Float), i ≠ 2 → southboundTrip.elements[i]? = some (.leg leg) →
      (southboundTrip.timeline 60)[i]? = some leg.departureTime) ∧
    (southboundTrip.timeline 60)[4]? =
      some (Element.advanceOver 60 northWalk + 1 + southboundRide.travelTime + 1) := by
  let walker : Walker Float := Teleport.walker .empty .default
  let finder : Pathfinder Unit Float := .constant ⟨10, 100⟩
  let stops : StopFinder Float := .constant ⟨some northStop, some southStop⟩
  obtain ⟨hWalker, hDoors, hStops⟩ := @departures_of_routed_trips Unit Float _
  refine ⟨hDoors .default walker finder southboundRequest () ⟨[.leg southboundRide]⟩
    (hWalker .empty .default) (by rfl), ?_⟩
  have hCourse : ViaStops.Takes .default walker stops finder southboundRequest ()
      (.ridden (some ⟨northWalk, northStop.location⟩) southboundRide
        (some ⟨southWalk, southStop.location⟩)) :=
    .ridden rfl rfl rfl rfl rfl rfl rfl
  obtain ⟨walk, hTakes, -⟩ | ⟨toStop, fromStop, access, egress, ride, hTakes, -, hFacts⟩ :=
    hStops .default walker stops finder southboundRequest () southboundTrip
      (hWalker .empty .default) (by rfl)
  · cases hTakes.unique hCourse
  · cases hTakes.unique hCourse
    exact hFacts

end DemandRide
