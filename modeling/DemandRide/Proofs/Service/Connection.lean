import DemandRide.Proofs.Itinerary.Connection
import DemandRide.Proofs.Service.Departures

/-! Where the elements of a trip lead. With a walker that leads from place to place, a trip
leads from the link of its origin to the link of its destination without a gap, and its ride
from where the traveller boards to where the traveller alights. Nothing is asked of the path
that is ridden: a ride joins two links whatever the pathfinder says of the way between them. -/
namespace DemandRide

variable {σ α : Type}

/-- Every walk leads from the link of one place to the link of the other and is not empty. -/
def Walker.Connects (walker : Walker α) : Prop :=
  ∀ origin destination time traveller elements,
    walker.walk origin destination time traveller = .ok elements →
      Connected origin.link destination.link elements

theorem Walker.Connects.leads {walker : Walker α} (hWalker : walker.Connects)
    {origin destination : Location α} {time : α} {traveller : TravellerId}
    {elements : List (Element α)}
    (hWalk : walker.walk origin destination time traveller = .ok elements) :
    Leads origin.link destination.link elements :=
  (connected_iff_leads.mp (hWalker _ _ _ _ _ hWalk)).2

namespace Teleport

variable [Plane α] {settings : WalkSettings α}

/-- A walk off the network stays with its link. -/
theorem leads_access (link : LinkId) (place linkPoint : Point α) (time : α) :
    Leads link link (access settings link place linkPoint time) := by
  unfold access
  split
  · rfl
  · exact ⟨rfl, rfl, rfl⟩

theorem leads_egress (link : LinkId) (place linkPoint : Point α) (time : α) :
    Leads link link (egress settings link place linkPoint time) := by
  unfold egress
  split
  · rfl
  · exact ⟨rfl, rfl, rfl⟩

theorem connected_joined (origin destination : LinkId)
    (start goal startPoint goalPoint : Point α) (time : α) :
    Connected origin destination
      (joined settings origin destination start goal startPoint goalPoint time) := by
  refine connected_iff_leads.mpr ⟨by simp [joined], ?_⟩
  exact (leads_access origin start startPoint time).append
    ⟨rfl, leads_egress destination goal goalPoint _⟩

theorem connects_walker (network : Network α) (settings : WalkSettings α) :
    (walker network settings).Connects := by
  intro origin destination time traveller elements hWalk
  have hRoute : route network settings origin destination time = .ok elements := hWalk
  obtain ⟨start, goal, -, -, ⟨-, rfl⟩ | ⟨-, startPoint, goalPoint, -, -, rfl⟩⟩ :=
    route_eq_ok_iff.mp hRoute
  · exact connected_iff_leads.mpr ⟨List.cons_ne_nil _ _, rfl, rfl⟩
  · exact connected_joined ..

end Teleport

theorem Fallback.connected_retag (settings : ServiceSettings α) {origin destination : LinkId}
    {elements : List (Element α)} (h : Connected origin destination elements) :
    Connected origin destination (retag settings elements) := by
  have hLinks (leg : Leg α) : (retagLeg settings leg).startLink = leg.startLink ∧
      (retagLeg settings leg).endLink = leg.endLink := by
    unfold retagLeg
    split <;> exact ⟨rfl, rfl⟩
  obtain ⟨hNonempty, hLeads⟩ := connected_iff_leads.mp h
  exact connected_iff_leads.mpr ⟨by simpa [retag] using hNonempty,
    hLeads.map_mapLeg (fun leg => (hLinks leg).1) fun leg => (hLinks leg).2⟩

/-- Two stops are ridden between exactly if one was found for either end and they are on
different links. -/
theorem ViaStops.choose_eq_ride_iff {pair : StopPair α} {access egress : Stop α} :
    choose pair = .ride access egress ↔
      pair.access = some access ∧ pair.egress = some egress ∧ access.link ≠ egress.link := by
  obtain ⟨first, last⟩ := pair
  cases first with
  | none => simp [choose]
  | some first =>
      cases last with
      | none => simp [choose]
      | some last =>
          by_cases hLink : first.link = last.link
          · simp only [choose, hLink, if_true, reduceCtorEq, false_iff]
            rintro ⟨⟨⟩, ⟨⟩, hDiffer⟩
            exact hDiffer hLink
          · simp only [choose, hLink, if_false, Choice.ride.injEq, Option.some.injEq]
            constructor
            · rintro ⟨rfl, rfl⟩
              exact ⟨rfl, rfl, hLink⟩
            · rintro ⟨rfl, rfl, -⟩
              exact ⟨rfl, rfl⟩

variable [Scalar α]

namespace Course

variable {settings : ServiceSettings α}

/-- What comes before a ride leads to where it begins, with or without a walk. -/
theorem leads_boarding {origin pickup : LinkId} {access : Option (Transfer α)}
    (hNone : access = none → origin = pickup)
    (hWalk : ∀ transfer ∈ access,
      transfer.place.link = pickup ∧ Leads origin pickup transfer.walk) :
    Leads origin pickup (boarding settings access) := by
  cases access with
  | none => exact hNone rfl
  | some transfer =>
      obtain ⟨hPlace, hLeads⟩ := hWalk transfer rfl
      exact hLeads.append ⟨hPlace, hPlace⟩

theorem leads_alighting {dropOff destination : LinkId} {egress : Option (Transfer α)}
    (hNone : egress = none → dropOff = destination)
    (hWalk : ∀ transfer ∈ egress,
      transfer.place.link = dropOff ∧ Leads dropOff destination transfer.walk) :
    Leads dropOff destination (alighting settings egress) := by
  cases egress with
  | none => exact hNone rfl
  | some transfer =>
      obtain ⟨hPlace, hLeads⟩ := hWalk transfer rfl
      refine ⟨hPlace, ?_⟩
      change Leads transfer.place.link destination transfer.walk
      rw [hPlace]
      exact hLeads

theorem elements_ridden {request : TripRequest α} {toStop fromStop : List (Element α)}
    {access egress : Location α} {ride : Leg α} :
    ((ridden (some ⟨toStop, access⟩) ride (some ⟨fromStop, egress⟩)).trip settings
      request).elements =
        toStop ++ stage settings access :: .leg ride :: stage settings egress :: fromStop := by
  simp [trip, boarding, alighting]

/-- A ride closes the gap between what comes before and after it. -/
theorem connected_ridden {request : TripRequest α} {access egress : Option (Transfer α)}
    {ride : Leg α} {origin destination : LinkId}
    (hBoarding : Leads origin ride.startLink (boarding settings access))
    (hAlighting : Leads ride.endLink destination (alighting settings egress)) :
    Connected origin destination ((ridden access ride egress).trip settings request).elements :=
  connected_iff_leads.mpr ⟨by simp [trip], hBoarding.append ⟨rfl, hAlighting⟩⟩

end Course

namespace DoorToDoor

variable {settings : ServiceSettings α} {walker : Walker α} {finder : Pathfinder σ α}
  {request : TripRequest α} {s : σ}

/-- A ride from door to door joins the links of the request, and whoever boards or alights does
so on one of them. -/
theorem Takes.links {access egress : Option (Transfer α)} {ride : Leg α}
    (h : Takes settings walker finder request s (.ridden access ride egress)) :
    ride.isRide ∧ ride.startLink = request.origin.link ∧ ride.endLink = request.destination.link ∧
      (∀ transfer ∈ access, transfer.place.link = request.origin.link) ∧
      ∀ transfer ∈ egress, transfer.place.link = request.destination.link := by
  cases h with
  | ridden _ _ hAccess _ hRide hEgress =>
      subst hRide
      refine ⟨rfl, rfl, rfl, fun transfer hTransfer => ?_, fun transfer hTransfer => ?_⟩
      · rw [(Transfer.of_ask hAccess transfer hTransfer).1]
        rfl
      · rw [(Transfer.of_ask hEgress transfer hTransfer).1]
        rfl

theorem Takes.connected {course : Course α} (hWalker : walker.Connects)
    (h : Takes settings walker finder request s course) :
    Connected request.origin.link request.destination.link
      (course.trip settings request).elements := by
  cases id h with
  | collapsed _ _ _ => exact ⟨rfl, rfl, List.isChain_singleton _⟩
  | @ridden access egress _ ride _ _ hAccess _ _ hEgress =>
      obtain ⟨-, hStart, hEnd, hPickup, hDropOff⟩ := h.links
      refine Course.connected_ridden (Course.leads_boarding (fun _ => hStart.symm) ?_)
        (Course.leads_alighting (fun _ => hEnd) ?_)
      · intro transfer hTransfer
        refine ⟨(hPickup transfer hTransfer).trans hStart.symm, ?_⟩
        rw [hStart]
        have hLeads := hWalker.leads (Transfer.of_ask hAccess transfer hTransfer).2
        exact hLeads
      · intro transfer hTransfer
        refine ⟨(hDropOff transfer hTransfer).trans hEnd.symm, ?_⟩
        rw [hEnd]
        have hLeads := hWalker.leads (Transfer.of_ask hEgress transfer hTransfer).2
        exact hLeads

end DoorToDoor

namespace ViaStops

variable {settings : ServiceSettings α} {walker : Walker α} {stops : StopFinder α}
  {finder : Pathfinder σ α} {request : TripRequest α} {s : σ}

theorem Takes.connected {course : Course α} (hWalker : walker.Connects)
    (h : Takes settings walker stops finder request s course) :
    Connected request.origin.link request.destination.link
      (course.trip settings request).elements := by
  cases h with
  | walked _ _ _ hWalk => exact Fallback.connected_retag settings (hWalker _ _ _ _ _ hWalk)
  | ridden _ _ _ hToStop _ hRide hFromStop =>
      subst hRide
      refine Course.connected_ridden (Course.leads_boarding nofun ?_)
        (Course.leads_alighting nofun ?_)
      · rintro _ ⟨⟩
        exact ⟨rfl, hWalker.leads hToStop⟩
      · rintro _ ⟨⟩
        exact ⟨rfl, hWalker.leads hFromStop⟩

end ViaStops

/-- With a walker that leads from place to place, such as one whose walks are teleported, every
trip leads from the link of its origin to the link of its destination without a gap. A ride
begins on the link where its traveller boards, which is that of the origin or of the stop found
for it, and ends on the link where the traveller alights. -/
theorem connected_routed_trips {σ α : Type} [Plane α] :
    (∀ (network : Network α) (settings : WalkSettings α),
      (Teleport.walker network settings).Connects) ∧
    (∀ (settings : ServiceSettings α) (walker : Walker α) (finder : Pathfinder σ α)
        (request : TripRequest α) (s : σ) (trip : Trip α),
      walker.Connects →
      ((DoorToDoor.route settings walker finder request).run s).result = .ok trip →
      Connected request.origin.link request.destination.link trip.elements ∧
      (request.origin.link ≠ request.destination.link → ∃ access ride egress,
        trip.elements = Course.boarding settings access ++
          .leg ride :: Course.alighting settings egress ∧
        ride.isRide ∧ ride.startLink = request.origin.link ∧
        ride.endLink = request.destination.link ∧
        (∀ transfer ∈ access, transfer.place.link = ride.startLink) ∧
        (∀ transfer ∈ egress, transfer.place.link = ride.endLink))) ∧
    (∀ (settings : ServiceSettings α) (walker : Walker α) (stops : StopFinder α)
        (finder : Pathfinder σ α) (request : TripRequest α) (s : σ) (trip : Trip α),
      walker.Connects →
      ((ViaStops.route settings walker stops finder request).run s).result = .ok trip →
      Connected request.origin.link request.destination.link trip.elements ∧
      (∀ pair access egress,
        ((stops.find request.origin request.destination).run ()).result = .ok pair →
        ViaStops.choose pair = .ride access egress → ∃ toStop ride fromStop,
        trip.elements = toStop ++ Course.stage settings access.location :: .leg ride ::
          Course.stage settings egress.location :: fromStop ∧
        pair.access = some access ∧ pair.egress = some egress ∧
        ride.isRide ∧ ride.startLink = access.link ∧ ride.endLink = egress.link)) := by
  refine ⟨Teleport.connects_walker, ?doors, ?stops⟩
  case doors =>
    intro settings walker finder request s trip hWalker hTrip
    obtain ⟨course, hTakes, rfl⟩ := DoorToDoor.result_route_eq_ok_iff.mp hTrip
    refine ⟨hTakes.connected hWalker, fun hLink => ?_⟩
    cases id hTakes with
    | collapsed _ hSame => exact absurd hSame hLink
    | ridden =>
        obtain ⟨hIsRide, hStart, hEnd, hPickup, hDropOff⟩ := hTakes.links
        rw [← hStart] at hPickup
        rw [← hEnd] at hDropOff
        exact ⟨_, _, _, rfl, hIsRide, hStart, hEnd, hPickup, hDropOff⟩
  case stops =>
    intro settings walker stops finder request s trip hWalker hTrip
    obtain ⟨course, hTakes, rfl⟩ := ViaStops.result_route_eq_ok_iff.mp hTrip
    refine ⟨hTakes.connected hWalker, fun pair access egress hPair hChoice => ?_⟩
    obtain ⟨hAccess, hEgress, -⟩ := ViaStops.choose_eq_ride_iff.mp hChoice
    cases hTakes with
    | walked _ hPair' hChoice' =>
        obtain rfl := Except.ok.inj (hPair'.symm.trans hPair)
        cases hChoice'.symm.trans hChoice
    | ridden _ hPair' hChoice' _ _ hRide =>
        obtain rfl := Except.ok.inj (hPair'.symm.trans hPair)
        cases hChoice'.symm.trans hChoice
        subst hRide
        exact ⟨_, _, _, Course.elements_ridden, hAccess, hEgress, rfl, rfl, rfl⟩

/-- A walker that takes a minute from any link to any other. -/
def steadyWalker : Walker Float :=
  ⟨fun origin destination time _ =>
    .ok [.leg (.plain walkMode origin.link destination.link time 60)]⟩

/-- The same traveller by way of the stops, and from door to door with a walk at either end. -/
theorem connected_southbound :
    let walking : ServiceSettings Float := { ServiceSettings.default with walksToRide := true }
    Connected ⟨"a"⟩ ⟨"b"⟩ southboundTrip.elements ∧
    (∃ toStop ride fromStop,
      southboundTrip.elements = toStop ++ Course.stage .default northStop.location ::
        .leg ride :: Course.stage .default southStop.location :: fromStop ∧
      ride.startLink = ⟨"a"⟩ ∧ ride.endLink = ⟨"b"⟩) ∧
    (∃ trip, ((DoorToDoor.route walking steadyWalker (.constant ⟨10, 100⟩)
        southboundRequest).run ()).result = .ok trip ∧
      trip.elements.length = 5 ∧ Connected ⟨"a"⟩ ⟨"b"⟩ trip.elements) := by
  intro walking
  let finder : Pathfinder Unit Float := .constant ⟨10, 100⟩
  let stops : StopFinder Float := .constant ⟨some northStop, some southStop⟩
  obtain ⟨hTeleport, hDoors, hStops⟩ := @connected_routed_trips Unit Float _
  obtain ⟨hConnected, hRide⟩ := hStops .default (Teleport.walker .empty .default) stops finder
    southboundRequest () southboundTrip (hTeleport .empty .default) (by rfl)
  obtain ⟨toStop, ride, fromStop, hElements, -, -, -, hStart, hEnd⟩ :=
    hRide _ northStop southStop rfl rfl
  have hSteady : steadyWalker.Connects := by
    rintro _ _ _ _ _ ⟨⟩
    exact ⟨rfl, rfl, List.isChain_singleton _⟩
  refine ⟨hConnected, ⟨toStop, ride, fromStop, hElements, hStart, hEnd⟩, _, rfl, rfl, ?_⟩
  exact (hDoors walking steadyWalker finder southboundRequest () _ hSteady rfl).1

end DemandRide
