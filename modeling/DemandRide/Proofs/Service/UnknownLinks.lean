import DemandRide.Proofs.Road.Network
import DemandRide.Proofs.Service.Batch

/-! Requests from or to links that are not in the network. Nothing asks whether a link is
there for its own sake: a link is noticed to be missing only where something of it is used. A
place with a point of its own is used without its link unless walks leave the network, and a
ride between stops never comes to the links of the places. -/
namespace DemandRide

variable {α : Type}

/-- What a teleported walk needs of the network. -/
theorem Teleport.exists_route_iff [Plane α] {network : Network α} (built : network.Built)
    {settings : WalkSettings α} {origin destination : Location α} {time : α} :
    (∃ elements, route network settings origin destination time = .ok elements) ↔
      network.Locates origin ∧ network.Locates destination ∧
        (settings.accessEgress = true →
          (network.link? origin.link).isSome ∧ (network.link? destination.link).isSome) := by
  rw [← built.exists_resolve_iff, ← built.exists_resolve_iff, ← built.exists_linkPoint_iff,
    ← built.exists_linkPoint_iff]
  constructor
  · rintro ⟨elements, hRoute⟩
    obtain ⟨start, goal, hStart, hGoal, ⟨hOff, -⟩ | ⟨-, startPoint, goalPoint, hStartPoint,
      hGoalPoint, -⟩⟩ := route_eq_ok_iff.mp hRoute
    · exact ⟨⟨start, hStart⟩, ⟨goal, hGoal⟩, fun hOn => absurd hOn (by simp [hOff])⟩
    · exact ⟨⟨start, hStart⟩, ⟨goal, hGoal⟩, fun _ =>
        ⟨⟨startPoint, hStartPoint⟩, ⟨goalPoint, hGoalPoint⟩⟩⟩
  · rintro ⟨⟨start, hStart⟩, ⟨goal, hGoal⟩, hLinks⟩
    cases hOn : settings.accessEgress with
    | false =>
        exact ⟨_, route_eq_ok_iff.mpr ⟨start, goal, hStart, hGoal, .inl ⟨hOn, rfl⟩⟩⟩
    | true =>
        obtain ⟨⟨startPoint, hStartPoint⟩, ⟨goalPoint, hGoalPoint⟩⟩ := hLinks hOn
        exact ⟨_, route_eq_ok_iff.mpr ⟨start, goal, hStart, hGoal,
          .inr ⟨hOn, startPoint, goalPoint, hStartPoint, hGoalPoint, rfl⟩⟩⟩

theorem Network.locates_stop (network : Network α) (stop : Stop α) :
    network.Locates stop.location := fun _ => rfl

/-- Stops are sought for places that are found on the network. -/
theorem StopFinder.exists_nearest_iff [Scalar α] {network : Network α} (built : network.Built)
    (index : StopIndex α) {origin destination : Location α} :
    (∃ pair, (((nearest network index).find origin destination).run ()).result = .ok pair) ↔
      network.Locates origin ∧ network.Locates destination := by
  have hSeek (location : Location α) :
      (∃ stop, ((seek index network location).run ()).result = .ok stop) ↔
        network.Locates location := by
    simp only [seek, StopIndex.choose, Session.result_bind_eq_ok_iff, Session.run_mapError,
      Session.run_ofExcept, Session.mapError_eq_ok_iff, Session.map_eq_ok_iff,
      Session.run_note, Session.run_pure, ← built.exists_resolve_iff]
    constructor
    · rintro ⟨_, _, ⟨point, hPoint, -⟩, -⟩
      exact ⟨point, hPoint⟩
    · rintro ⟨point, hPoint⟩
      exact ⟨_, _, ⟨point, hPoint, rfl⟩, (), trivial, rfl⟩
  rw [← hSeek, ← hSeek]
  simp only [nearest, Session.result_bind_eq_ok_iff, Session.run_pure]
  constructor
  · rintro ⟨_, access, hAccess, egress, hEgress, -⟩
    exact ⟨⟨access, hAccess⟩, ⟨egress, hEgress⟩⟩
  · rintro ⟨⟨access, hAccess⟩, ⟨egress, hEgress⟩⟩
    exact ⟨_, access, hAccess, egress, hEgress, rfl⟩

/-- Paths are only answered between links that are there. -/
theorem Pathfinder.known_of_freeSpeed [Scalar α] {network : Network α} {query : PathQuery α}
    {s : Search α} {path : DirectPath α}
    (hPath : (((freeSpeed network).find query).run s).result = .ok path) :
    (network.link? query.origin).isSome ∧ (network.link? query.destination).isSome := by
  have hKnown {id : LinkId} {link : Link α} {s : Search α}
      (hLink : ((known network id).run s).result = .ok link) : (network.link? id).isSome := by
    unfold known at hLink
    split at hLink
    · simp [*]
    · cases hLink
  obtain ⟨origin, hOrigin, hRest⟩ := Session.result_bind_eq_ok_iff.mp hPath
  obtain ⟨destination, hDestination, -⟩ := Session.result_bind_eq_ok_iff.mp hRest
  exact ⟨hKnown hOrigin, hKnown hDestination⟩

namespace ViaStops

variable {σ : Type}

/-- Wherever the stops in reach allow a ride, the path between them is answered. -/
def Answered (stops : StopFinder α) (finder : Pathfinder σ α) (request : TripRequest α) (s : σ) :
    Prop :=
  ∀ pair access egress,
    ((stops.find request.origin request.destination).run ()).result = .ok pair →
    choose pair = .ride access egress →
    ∃ path, ((finder.find ⟨access.link, egress.link, request.departureTime⟩).run s).result =
      .ok path

theorem Takes.answered [Scalar α] {settings : ServiceSettings α} {walker : Walker α}
    {stops : StopFinder α} {finder : Pathfinder σ α} {request : TripRequest α} {s : σ}
    {course : Course α} (hTakes : Takes settings walker stops finder request s course) :
    Answered stops finder request s := by
  intro pair access egress hPair hRide
  cases hTakes with
  | walked _ hPair' hChoice =>
      obtain rfl := Except.ok.inj (hPair'.symm.trans hPair)
      cases hChoice.symm.trans hRide
  | ridden _ hPair' hChoice _ hPath =>
      obtain rfl := Except.ok.inj (hPair'.symm.trans hPair)
      cases hChoice.symm.trans hRide
      exact ⟨_, hPath⟩

end ViaStops

/-- What keeps a request that begins or ends on a link that is not there from being routed. -/
inductive Service.Obstacle [Scalar α] (service : Service α) (network : Network α)
    (walk : WalkSettings α) (request : TripRequest α) (s : Search α) : Prop where
  /-- The request is refused before anything is looked up. -/
  | refused {fault : RequestFault α} (hFault : request.validate = .error fault)
  /-- Walks leave the network at the points of the links. -/
  | leaving (hOn : walk.accessEgress = true)
  /-- One of the places is known by its link alone, and the link is not there. -/
  | unlocated {place : Location α} (hPlace : place = request.origin ∨ place = request.destination)
      (hLost : ¬network.Locates place)
  /-- The path is asked for between the links of the places. -/
  | ridden (hBoarding : service.boarding = .anyLink)
      (hLink : request.origin.link ≠ request.destination.link)
  /-- There is no answer to the path between the stops, whatever the places are. -/
  | unanswered {stops : StopFinder α} {pair : StopPair α} {access egress : Stop α}
      {e : PathError} (hBoarding : service.boarding = .atStops stops)
      (hPair : ((stops.find request.origin request.destination).run ()).result = .ok pair)
      (hChoice : ViaStops.choose pair = .ride access egress)
      (hPath : (((Pathfinder.freeSpeed network).find
        ⟨access.link, egress.link, request.departureTime⟩).run s).result = .error e)

/-- Nothing keeps a request from being routed if all of this is in order. -/
theorem Service.not_obstacle_iff [Scalar α] {service : Service α} {network : Network α}
    {walk : WalkSettings α} {request : TripRequest α} {s : Search α} :
    ¬service.Obstacle network walk request s ↔
      request.validate = .ok () ∧ walk.accessEgress = false ∧ network.Locates request.origin ∧
        network.Locates request.destination ∧
        (service.boarding = .anyLink → request.origin.link = request.destination.link) ∧
        ∀ stops, service.boarding = .atStops stops →
          ViaStops.Answered stops (.freeSpeed network) request s := by
  constructor
  · intro hFree
    refine ⟨?valid, ?off, ?origin, ?destination, ?links, ?paths⟩
    case valid =>
      cases hFault : request.validate with
      | error fault => exact absurd (.refused hFault) hFree
      | ok valid => rfl
    case off => exact Bool.eq_false_iff.mpr fun hOn => hFree (.leaving hOn)
    case origin => exact by_contra fun hLost => hFree (.unlocated (.inl rfl) hLost)
    case destination => exact by_contra fun hLost => hFree (.unlocated (.inr rfl) hLost)
    case links => exact fun hBoarding => by_contra fun hLink => hFree (.ridden hBoarding hLink)
    case paths =>
      intro stops hBoarding pair access egress hPair hChoice
      cases hPath : (((Pathfinder.freeSpeed network).find
        ⟨access.link, egress.link, request.departureTime⟩).run s).result with
      | error e => exact absurd (.unanswered hBoarding hPair hChoice hPath) hFree
      | ok path => exact ⟨path, rfl⟩
  · rintro ⟨hValid, hOff, hOrigin, hDestination, hLinks, hPaths⟩ hObstacle
    cases hObstacle with
    | refused hFault => cases hValid.symm.trans hFault
    | leaving hOn => cases hOff.symm.trans hOn
    | unlocated hPlace hLost =>
        rcases hPlace with rfl | rfl
        · exact hLost hOrigin
        · exact hLost hDestination
    | ridden hBoarding hLink => exact hLink (hLinks hBoarding)
    | unanswered hBoarding hPair hChoice hPath =>
        obtain ⟨path, hOk⟩ := hPaths _ hBoarding _ _ _ hPair hChoice
        cases hOk.symm.trans hPath

theorem not_both_known {network : Network α} {request : TripRequest α}
    (hUnknown : network.link? request.origin.link = none ∨
      network.link? request.destination.link = none) :
    ¬((network.link? request.origin.link).isSome ∧
      (network.link? request.destination.link).isSome) := by
  rcases hUnknown with hNone | hNone <;> simp [hNone]

section Unknown

variable [Plane α] {network : Network α} {settings : ServiceSettings α} {walk : WalkSettings α}
  {request : TripRequest α} {s : Search α} (built : network.Built)

include built

/-- Walks that stay on the network only have to find their places. -/
theorem Teleport.exists_route_of_locates (hOff : walk.accessEgress = false)
    {origin destination : Location α} (hOrigin : network.Locates origin)
    (hDestination : network.Locates destination) (time : α) :
    ∃ elements, route network walk origin destination time = .ok elements :=
  (exists_route_iff built).mpr ⟨hOrigin, hDestination, by simp [hOff]⟩

/-- If walks stay on the network, a trip by way of stops needs no more than its places and a
path between its stops. -/
theorem ViaStops.exists_takes {index : StopIndex α} {finder : Pathfinder (Search α) α}
    (hValid : request.validate = .ok ()) (hOff : walk.accessEgress = false)
    (hOrigin : network.Locates request.origin)
    (hDestination : network.Locates request.destination)
    (hAnswered : Answered (.nearest network index) finder request s) :
    ∃ course, Takes settings (Teleport.walker network walk) (.nearest network index) finder
      request s course := by
  have hWalks {origin destination : Location α} (hFrom : network.Locates origin)
      (hTo : network.Locates destination) (time : α) :=
    Teleport.exists_route_of_locates built hOff hFrom hTo time
  obtain ⟨pair, hPair⟩ :=
    (StopFinder.exists_nearest_iff built index).mpr ⟨hOrigin, hDestination⟩
  cases hChoice : choose pair with
  | walk reason =>
      obtain ⟨elements, hWalk⟩ := hWalks hOrigin hDestination request.departureTime
      exact ⟨_, .walked hValid hPair hChoice hWalk⟩
  | ride access egress =>
      obtain ⟨path, hPath⟩ := hAnswered pair access egress hPair hChoice
      let ride := Ride.leg settings ⟨access.link, egress.link, request.departureTime⟩ path
      obtain ⟨toStop, hToStop⟩ := hWalks hOrigin (network.locates_stop access)
        request.departureTime
      obtain ⟨fromStop, hFromStop⟩ := hWalks (network.locates_stop egress) hDestination
        (Element.advanceOver request.departureTime
          (toStop ++ [Course.stage settings access.location, .leg ride,
            Course.stage settings egress.location]))
      exact ⟨_, .ridden hValid hPair hChoice hToStop hPath rfl hFromStop⟩

variable (hUnknown : network.link? request.origin.link = none ∨
  network.link? request.destination.link = none)

include hUnknown

/-- A walk between the places of a request shows that nothing of them was missing. -/
theorem located_of_walk {elements : List (Element α)} {time : α}
    (hWalk : Teleport.route network walk request.origin request.destination time =
      .ok elements) :
    walk.accessEgress = false ∧ network.Locates request.origin ∧
      network.Locates request.destination := by
  obtain ⟨hOrigin, hDestination, hLinks⟩ :=
    (Teleport.exists_route_iff built).mp ⟨elements, hWalk⟩
  have hOff := Bool.eq_false_iff.mpr fun hOn => not_both_known hUnknown (hLinks hOn)
  exact ⟨hOff, hOrigin, hDestination⟩

/-- Whatever course a trip by way of stops takes, walks have come to both of its places. -/
theorem ViaStops.Takes.located {stops : StopFinder α} {finder : Pathfinder (Search α) α}
    {course : Course α}
    (hTakes : Takes settings (Teleport.walker network walk) stops finder request s course) :
    walk.accessEgress = false ∧ network.Locates request.origin ∧
      network.Locates request.destination := by
  cases hTakes with
  | walked _ _ _ hWalk => exact located_of_walk built hUnknown hWalk
  | ridden _ _ _ hToStop _ _ hFromStop =>
      obtain ⟨hOrigin, -, hFirst⟩ := (Teleport.exists_route_iff built).mp ⟨_, hToStop⟩
      obtain ⟨-, hDestination, hLast⟩ := (Teleport.exists_route_iff built).mp ⟨_, hFromStop⟩
      have hOff := Bool.eq_false_iff.mpr fun hOn =>
        not_both_known hUnknown ⟨(hFirst hOn).1, (hLast hOn).2⟩
      exact ⟨hOff, hOrigin, hDestination⟩

/-- A trip from door to door with an end on a link that is not there is a walk. -/
theorem DoorToDoor.exists_route_iff_of_unknown :
    (∃ trip, ((route settings (Teleport.walker network walk) (.freeSpeed network) request).run
        s).result = .ok trip) ↔
      request.validate = .ok () ∧ request.origin.link = request.destination.link ∧
        walk.accessEgress = false ∧ network.Locates request.origin ∧
        network.Locates request.destination := by
  constructor
  · rintro ⟨trip, hTrip⟩
    obtain ⟨course, hTakes, -⟩ := result_route_eq_ok_iff.mp hTrip
    cases hTakes with
    | collapsed hValid hLink hWalk =>
        exact ⟨hValid, hLink, located_of_walk built hUnknown hWalk⟩
    | ridden _ _ _ hPath =>
        exact absurd (Pathfinder.known_of_freeSpeed hPath) (not_both_known hUnknown)
  · rintro ⟨hValid, hLink, hOff, hOrigin, hDestination⟩
    obtain ⟨elements, hWalk⟩ :=
      Teleport.exists_route_of_locates built hOff hOrigin hDestination request.departureTime
    exact ⟨_, result_route_eq_ok_iff.mpr ⟨_, .collapsed hValid hLink hWalk, rfl⟩⟩

/-- A trip by way of stops is not kept from an end on a link that is not there, if walks stay
on the network and both places have points. -/
theorem ViaStops.exists_route_iff_of_unknown {index : StopIndex α} :
    (∃ trip, ((route settings (Teleport.walker network walk) (.nearest network index)
        (.freeSpeed network) request).run s).result = .ok trip) ↔
      request.validate = .ok () ∧ walk.accessEgress = false ∧ network.Locates request.origin ∧
        network.Locates request.destination ∧
        Answered (.nearest network index) (.freeSpeed network) request s := by
  constructor
  · rintro ⟨trip, hTrip⟩
    obtain ⟨course, hTakes, -⟩ := result_route_eq_ok_iff.mp hTrip
    obtain ⟨hOff, hOrigin, hDestination⟩ := hTakes.located built hUnknown
    exact ⟨hTakes.valid, hOff, hOrigin, hDestination, hTakes.answered⟩
  · rintro ⟨hValid, hOff, hOrigin, hDestination, hAnswered⟩
    obtain ⟨course, hTakes⟩ := exists_takes built hValid hOff hOrigin hDestination hAnswered
    exact ⟨_, result_route_eq_ok_iff.mpr ⟨course, hTakes, rfl⟩⟩

end Unknown

/-- A request from or to a link that is not there fails exactly if something comes upon the
link, and that depends on more than the link: two places with points are walked between, or
ridden between by way of stops, as if their links were there. -/
theorem Service.fails_iff_obstacle [Plane α] {network : Network α} (built : network.Built)
    {settings : ServiceSettings α} {walk : WalkSettings α} {index : Option (StopIndex α)}
    {service : Service α}
    (hStart : Service.start settings (Teleport.walker network walk)
      (index.map (StopFinder.nearest network)) = .ok service)
    {request : TripRequest α}
    (hUnknown : network.link? request.origin.link = none ∨
      network.link? request.destination.link = none) (s : Search α) :
    (∃ e, ((service.route (.freeSpeed network) request).run s).result = .error e) ↔
      service.Obstacle network walk request s := by
  obtain ⟨-, rfl, hWalker, hBoarding⟩ := Service.start_eq_ok_iff.mp hStart
  rw [Session.exists_error_iff, not_iff_comm, Service.not_obstacle_iff]
  unfold route
  rw [hWalker]
  rcases hBoarding with ⟨-, hBoarding⟩ | ⟨stops, -, hStops, hBoarding⟩
  · simp only [hBoarding]
    rw [DoorToDoor.exists_route_iff_of_unknown built hUnknown]
    constructor
    · rintro ⟨hValid, hOff, hOrigin, hDestination, hLinks, -⟩
      exact ⟨hValid, hLinks trivial, hOff, hOrigin, hDestination⟩
    · rintro ⟨hValid, hLink, hOff, hOrigin, hDestination⟩
      exact ⟨hValid, hOff, hOrigin, hDestination, fun _ => hLink, nofun⟩
  · obtain ⟨index, -, rfl⟩ := Option.map_eq_some_iff.mp hStops
    simp only [hBoarding]
    rw [ViaStops.exists_route_iff_of_unknown built hUnknown]
    constructor
    · rintro ⟨hValid, hOff, hOrigin, hDestination, -, hAnswered⟩
      exact ⟨hValid, hOff, hOrigin, hDestination, hAnswered _ rfl⟩
    · rintro ⟨hValid, hOff, hOrigin, hDestination, hAnswered⟩
      refine ⟨hValid, hOff, hOrigin, hDestination, nofun, ?_⟩
      rintro _ ⟨⟩
      exact hAnswered

/-- The same stroll is walked or not by whether walks leave the network. -/
theorem fails_iff_obstacle_stroll :
    let leaving : WalkSettings Float := { WalkSettings.default with accessEgress := true }
    (∃ e, ((Service.route ⟨.default, Teleport.walker .empty leaving, .anyLink⟩
      (.freeSpeed .empty) (strollRequest 0)).run Search.empty).result = .error e) ∧
    ¬∃ e, ((Service.route ⟨.default, Teleport.walker .empty .default, .anyLink⟩
      (.freeSpeed .empty) (strollRequest 0)).run Search.empty).result = .error e := by
  intro leaving
  have hStart (walk : WalkSettings Float) :
      Service.start .default (Teleport.walker .empty walk)
        ((none : Option (StopIndex Float)).map (StopFinder.nearest .empty)) =
          .ok ⟨.default, Teleport.walker .empty walk, .anyLink⟩ := by rfl
  have hUnknown : (Network.empty : Network Float).link? (strollRequest 0).origin.link = none :=
    Network.link?_empty _
  have hIff (walk : WalkSettings Float) :=
    Service.fails_iff_obstacle .empty (hStart walk) (.inl hUnknown) Search.empty
  refine ⟨(hIff leaving).mpr (.leaving rfl), mt (hIff .default).mp ?_⟩
  exact Service.not_obstacle_iff.mpr
    ⟨by rfl, rfl, fun _ => rfl, fun _ => rfl, fun _ => rfl, nofun⟩

/-- A link that is not there is not always noticed: a stroll along such a link is walked. -/
theorem unknownLink_not_fatal :
    ¬∀ (network : Network Float) (settings : ServiceSettings Float) (walk : WalkSettings Float)
        (index : Option (StopIndex Float)) (service : Service Float)
        (request : TripRequest Float),
      network.Built → walk.validate = .ok () →
      Service.start settings (Teleport.walker network walk)
        (index.map (StopFinder.nearest network)) = .ok service →
      network.link? request.origin.link = none ∨
        network.link? request.destination.link = none →
      ∃ e, ((service.route (.freeSpeed network) request).run Search.empty).result = .error e := by
  intro hFatal
  obtain ⟨e, hError⟩ := hFatal .empty .default .default none _ (strollRequest 0) .empty (by rfl)
    (by rfl) (.inl (by rfl))
  have hOk : ((Service.route ⟨.default, Teleport.walker .empty .default, .anyLink⟩
      (.freeSpeed .empty) (strollRequest 0)).run Search.empty).result = .ok (strollTrip 0) := by
    rfl
  cases hOk.symm.trans hError

end DemandRide
