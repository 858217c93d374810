import DemandRide.Proofs.Number.Binary64
import DemandRide.Proofs.Road.Search
import DemandRide.Proofs.Service.Connection
import DemandRide.Proofs.Service.UnknownLinks
import DemandRide.Proofs.Stops.Nearest

/-! When requests fail. On a network that was built, with every link it comes upon in the network,
a request fails for one of two reasons: its departure time is no proper time, or it is to be ridden
and no links lead from the end of the first link to the beginning of the last. A trip that is
walked does not depend on what can be reached. -/
namespace DemandRide

open Scalar

variable {α : Type}

/-- A vehicle at the end of the one link can come to the beginning of the other. -/
def Network.Rideable (network : Network α) (origin destination : LinkId) : Prop :=
  ∃ first last, network.link? origin = some first ∧ network.link? destination = some last ∧
    network.Reaches first.target last.source

/-- Between two links of the network a path is answered, in no negative time, exactly if the one
can be reached from the other. -/
theorem Pathfinder.find_freeSpeed [Scalar α] [OrderedScalar α] {network : Network α}
    (built : network.Built) (query : PathQuery α)
    (hOrigin : (network.link? query.origin).isSome)
    (hDestination : (network.link? query.destination).isSome)
    (hDiffer : query.origin ≠ query.destination) (s : Search α) :
    (∃ path, (((freeSpeed network).find query).run s).result = .ok path ∧
        lt path.travelTime 0 = false ∧ network.Rideable query.origin query.destination) ∨
      (((freeSpeed network).find query).run s).result =
        .error (.noPath query.origin query.destination) ∧
        ¬network.Rideable query.origin query.destination := by
  obtain ⟨first, hFirst⟩ := Option.isSome_iff_exists.mp hOrigin
  obtain ⟨last, hLast⟩ := Option.isSome_iff_exists.mp hDestination
  have hRideable : network.Rideable query.origin query.destination ↔
      network.Reaches first.target last.source := by
    simp [Network.Rideable, hFirst, hLast]
  have hSound := Search.sound_between built s first.target last.source
  rw [hRideable]
  simp only [freeSpeed, known, hFirst, hLast, answer, Session.run_bind, Session.run_pure,
    Session.run_get, if_neg hDiffer]
  generalize Search.between network s first.target last.source = found at hSound
  obtain ⟨finding, search⟩ := found
  cases finding
  case label inner =>
    left
    have hTime : lt ((1 : α) + inner.time + last.travelTime) 0 = false := by
      have hOne := OrderedScalar.lt_asymm (OrderedScalar.zero_lt_one (α := α))
      have hPassing := Network.not_travelTime_lt_zero (built.link?_sound hLast).2
      exact OrderedScalar.not_add_lt_zero (OrderedScalar.not_add_lt_zero hOne hSound.2) hPassing
    exact ⟨_, rfl, hTime, hSound.1⟩
  case unreachable => exact .inr ⟨rfl, hSound⟩
  case unfinished => exact hSound.elim

section Errors

variable [Scalar α] {σ : Type} {settings : ServiceSettings α} {walker : Walker α}
  {stops : StopFinder α} {finder : Pathfinder σ α} {request : TripRequest α} {s : σ}

theorem DoorToDoor.result_route_of_invalid {fault : RequestFault α}
    (hFault : request.validate = .error fault) :
    ((route settings walker finder request).run s).result = .error (.invalidRequest fault) :=
  Session.result_bind_eq_error_iff.mpr (.inl (by simp [hFault]))

theorem ViaStops.result_route_of_invalid {fault : RequestFault α}
    (hFault : request.validate = .error fault) :
    ((route settings walker stops finder request).run s).result =
      .error (.invalidRequest fault) :=
  Session.result_bind_eq_error_iff.mpr (.inl (by simp [hFault]))

theorem Ride.result_build_of_error {query : PathQuery α} {cause : PathError}
    (hPath : ((finder.find query).run s).result = .error cause) :
    ((build settings finder query).run s).result = .error (.path cause) :=
  Session.result_bind_eq_error_iff.mpr (.inl (by simp [hPath]))

/-- The walk to the vehicle comes first, so a path is only missed once that is known. -/
theorem DoorToDoor.result_route_of_no_path {access : Option (Transfer α)} {cause : PathError}
    (hValid : request.validate = .ok ())
    (hLink : request.origin.link ≠ request.destination.link)
    (hAccess : access? settings walker request = .ok access)
    (hPath : ((finder.find (query settings request access)).run s).result = .error cause) :
    ((route settings walker finder request).run s).result = .error (.path cause) := by
  refine Session.result_bind_eq_error_iff.mpr (.inr ⟨(), by simp [hValid], ?_⟩)
  rw [if_neg hLink]
  refine Session.result_bind_eq_error_iff.mpr (.inr ⟨Course.boarding settings access, ?_, ?_⟩)
  · simp [run_beforeRide, hAccess, Except.map]
  · rw [run_beforeRide]
    exact Session.result_bind_eq_error_iff.mpr (.inl (Ride.result_build_of_error hPath))

theorem ViaStops.result_route_of_no_path {pair : StopPair α} {access egress : Stop α}
    {toStop : List (Element α)} {cause : PathError} (hValid : request.validate = .ok ())
    (hPair : ((stops.find request.origin request.destination).run ()).result = .ok pair)
    (hChoice : choose pair = .ride access egress)
    (hToStop : walker.walk request.origin access.location request.departureTime
      request.traveller = .ok toStop)
    (hPath : ((finder.find ⟨access.link, egress.link, request.departureTime⟩).run s).result =
      .error cause) :
    ((route settings walker stops finder request).run s).result = .error (.path cause) := by
  refine Session.result_bind_eq_error_iff.mpr (.inr ⟨(), by simp [hValid], ?_⟩)
  refine Session.result_bind_eq_error_iff.mpr (.inr ⟨pair, hPair, ?_⟩)
  simp only [hChoice]
  refine Session.result_bind_eq_error_iff.mpr (.inr ⟨toStop, ?_, ?_⟩)
  · simp [Fallback.run_walk, hToStop]
  · exact Session.result_bind_eq_error_iff.mpr (.inl (Ride.result_build_of_error hPath))

end Errors

namespace Service

/-- Which links a request would be ridden between, if it is not walked. -/
inductive Offers (service : Service α) (request : TripRequest α) : LinkId → LinkId → Prop where
  /-- From door to door, unless origin and destination are on one link. -/
  | doors (hBoarding : service.boarding = .anyLink)
      (hLink : request.origin.link ≠ request.destination.link) :
      Offers service request request.origin.link request.destination.link
  /-- Between the stops found for the trip, unless they are on one link. -/
  | stops {finder : StopFinder α} {pair : StopPair α} {access egress : Stop α}
      (hBoarding : service.boarding = .atStops finder)
      (hPair : ((finder.find request.origin request.destination).run ()).result = .ok pair)
      (hAccess : pair.access = some access) (hEgress : pair.egress = some egress)
      (hLink : access.link ≠ egress.link) :
      Offers service request access.link egress.link

/-- A ride leads from one link to another. -/
theorem Offers.differ {service : Service α} {request : TripRequest α} {a b : LinkId}
    (h : service.Offers request a b) : a ≠ b := by
  cases h <;> assumption

/-- A request is ridden between at most one pair of links. -/
theorem Offers.unique {service : Service α} {request : TripRequest α} {a b a' b' : LinkId}
    (h : service.Offers request a b) (h' : service.Offers request a' b') : a = a' ∧ b = b' := by
  cases h with
  | doors hBoarding =>
      cases h' with
      | doors => exact ⟨rfl, rfl⟩
      | stops hBoarding' => cases hBoarding.symm.trans hBoarding'
  | stops hBoarding hPair hAccess hEgress =>
      cases h' with
      | doors hBoarding' => cases hBoarding.symm.trans hBoarding'
      | stops hBoarding' hPair' hAccess' hEgress' =>
          cases hBoarding.symm.trans hBoarding'
          cases hPair.symm.trans hPair'
          cases hAccess.symm.trans hAccess'
          cases hEgress.symm.trans hEgress'
          exact ⟨rfl, rfl⟩

/-- A ride between stops is one that is chosen. -/
theorem Offers.exists_choice {service : Service α} {request : TripRequest α} {a b : LinkId}
    {finder : StopFinder α} {pair : StopPair α} (h : service.Offers request a b)
    (hBoarding : service.boarding = .atStops finder)
    (hPair : ((finder.find request.origin request.destination).run ()).result = .ok pair) :
    ∃ access egress, ViaStops.choose pair = .ride access egress := by
  cases h with
  | doors hDoors => cases hBoarding.symm.trans hDoors
  | stops hFinder hFound hAccess hEgress hLink =>
      cases hBoarding.symm.trans hFinder
      cases hPair.symm.trans hFound
      exact ⟨_, _, ViaStops.choose_eq_ride_iff.mpr ⟨hAccess, hEgress, hLink⟩⟩

/-- What a request may come to. -/
inductive Verdict [Scalar α] (service : Service α) (network : Network α)
    (request : TripRequest α) : Except (RoutingError α) (Trip α) → Prop where
  | refused {fault : RequestFault α} (hFault : request.validate = .error fault) :
      Verdict service network request (.error (.invalidRequest fault))
  | stranded {a b : LinkId} (hValid : request.validate = .ok ())
      (hOffers : service.Offers request a b) (hCut : ¬network.Rideable a b) :
      Verdict service network request (.error (.path (.noPath a b)))
  | routed {trip : Trip α} (hValid : request.validate = .ok ())
      (hRideable : ∀ a b, service.Offers request a b → network.Rideable a b) :
      Verdict service network request (.ok trip)

namespace Verdict

variable [Scalar α] {service : Service α} {network : Network α} {request : TripRequest α}
  {result : Except (RoutingError α) (Trip α)}

/-- A request that is ridden is ridden between the links that it is offered. -/
theorem ridden {a b : LinkId} {trip : Trip α} (hValid : request.validate = .ok ())
    (hOffers : service.Offers request a b) (hRideable : network.Rideable a b) :
    service.Verdict network request (.ok trip) := by
  refine .routed hValid fun _ _ hOther => ?_
  obtain ⟨rfl, rfl⟩ := hOffers.unique hOther
  exact hRideable

theorem refused_iff (h : service.Verdict network request result) {fault : RequestFault α} :
    result = .error (.invalidRequest fault) ↔ request.validate = .error fault := by
  cases h with
  | refused hFault => simp [hFault]
  | stranded hValid => simp [hValid]
  | routed hValid => simp [hValid]

theorem stranded_iff (h : service.Verdict network request result) {a b : LinkId} :
    result = .error (.path (.noPath a b)) ↔
      request.validate = .ok () ∧ service.Offers request a b ∧ ¬network.Rideable a b := by
  cases h with
  | refused hFault => simp [hFault]
  | stranded hValid hOffers hCut =>
      constructor
      · rintro ⟨⟩
        exact ⟨hValid, hOffers, hCut⟩
      · rintro ⟨-, hOther, -⟩
        obtain ⟨rfl, rfl⟩ := hOffers.unique hOther
        rfl
  | routed _ hRideable =>
      constructor
      · rintro ⟨⟩
      · rintro ⟨-, hOffers, hCut⟩
        exact absurd (hRideable a b hOffers) hCut

theorem routed_iff (h : service.Verdict network request result) :
    (∃ trip, result = .ok trip) ↔
      request.validate = .ok () ∧ ∀ a b, service.Offers request a b → network.Rideable a b := by
  cases h with
  | refused hFault => simp [hFault]
  | stranded _ hOffers hCut =>
      constructor
      · rintro ⟨_, ⟨⟩⟩
      · rintro ⟨-, hRideable⟩
        exact absurd (hRideable _ _ hOffers) hCut
  | routed hValid hRideable => exact ⟨fun _ => ⟨hValid, hRideable⟩, fun _ => ⟨_, rfl⟩⟩

/-- There is no third way to fail. -/
theorem of_error (h : service.Verdict network request result) {e : RoutingError α}
    (hError : result = .error e) :
    (∃ fault, e = .invalidRequest fault) ∨ ∃ a b, e = .path (.noPath a b) := by
  cases h with
  | refused =>
      cases hError
      exact .inl ⟨_, rfl⟩
  | stranded =>
      cases hError
      exact .inr ⟨_, _, rfl⟩
  | routed => cases hError

end Verdict

end Service

/-- A transfer whose walk is answered is answered, whether it is wanted or not. -/
theorem Transfer.exists_ask {answer : Except NetworkError (List (Element α))}
    (hWalk : ∃ walk, answer = .ok walk) (wanted : Bool) (place : Location α) :
    ∃ asked, ask wanted place answer = .ok asked := by
  obtain ⟨walk, rfl⟩ := hWalk
  cases wanted
  · exact ⟨none, rfl⟩
  · exact ⟨some ⟨walk, place⟩, rfl⟩

/-- Walks between places on links of the network do not fail. -/
theorem Teleport.exists_walk [Plane α] {network : Network α} (built : network.Built)
    (settings : WalkSettings α) (origin destination : Location α)
    (hOrigin : (network.link? origin.link).isSome)
    (hDestination : (network.link? destination.link).isSome) (time : α)
    (traveller : TravellerId) :
    ∃ elements, (walker network settings).walk origin destination time traveller =
      .ok elements :=
  (exists_route_iff built).mpr ⟨Network.locates_of_known hOrigin,
    Network.locates_of_known hDestination, fun _ => ⟨hOrigin, hDestination⟩⟩

section Known

variable [Plane α] [OrderedScalar α] {network : Network α} {walk : WalkSettings α}
  {service : Service α} {request : TripRequest α} {s : Search α} (built : network.Built)
  (hWalker : service.walker = Teleport.walker network walk)
  (hOrigin : (network.link? request.origin.link).isSome)
  (hDestination : (network.link? request.destination.link).isSome)

include built hWalker hOrigin hDestination

theorem DoorToDoor.verdict (hBoarding : service.boarding = .anyLink) :
    service.Verdict network request
      ((route service.settings service.walker (.freeSpeed network) request).run s).result := by
  rw [hWalker]
  cases hValid : request.validate with
  | error fault =>
      rw [result_route_of_invalid hValid]
      exact .refused hValid
  | ok valid =>
      by_cases hLink : request.origin.link = request.destination.link
      · obtain ⟨elements, hWalk⟩ := Teleport.exists_walk built walk request.origin
          request.destination hOrigin hDestination request.departureTime request.traveller
        rw [result_route_eq_ok_iff.mpr ⟨_, .collapsed hValid hLink hWalk, rfl⟩]
        refine .routed hValid fun a b hOffers => ?_
        cases hOffers with
        | doors _ hDiffer => exact absurd hLink hDiffer
        | stops hStops => cases hBoarding.symm.trans hStops
      · have hOffers : service.Offers request request.origin.link request.destination.link :=
          .doors hBoarding hLink
        let pickup : Location α := .onLink request.origin.link
        let dropOff : Location α := .onLink request.destination.link
        obtain ⟨access, hAccess⟩ := Transfer.exists_ask (Teleport.exists_walk built walk
          request.origin pickup hOrigin hOrigin request.departureTime request.traveller)
          (service.settings.walksToRide && !request.origin.isStop) pickup
        rcases Pathfinder.find_freeSpeed built (query service.settings request access) hOrigin
          hDestination hLink s with ⟨path, hPath, -, hRideable⟩ | ⟨hPath, hCut⟩
        · obtain ⟨egress, hEgress⟩ := Transfer.exists_ask (Teleport.exists_walk built walk dropOff
            request.destination hDestination hDestination _ request.traveller)
            service.settings.walksToRide dropOff
          rw [result_route_eq_ok_iff.mpr
            ⟨_, .ridden hValid hLink hAccess hPath rfl hEgress, rfl⟩]
          exact .ridden hValid hOffers hRideable
        · rw [result_route_of_no_path hValid hLink hAccess hPath]
          exact .stranded hValid hOffers hCut

theorem ViaStops.verdict {index : StopIndex α}
    (hBoarding : service.boarding = .atStops (.nearest network index))
    (hStops : ∀ stop ∈ index.stops, (network.link? stop.link).isSome) :
    service.Verdict network request
      ((route service.settings service.walker (.nearest network index) (.freeSpeed network)
        request).run s).result := by
  rw [hWalker]
  cases hValid : request.validate with
  | error fault =>
      rw [result_route_of_invalid hValid]
      exact .refused hValid
  | ok valid =>
      obtain ⟨start, hStart⟩ :=
        built.exists_resolve_iff.mpr (Network.locates_of_known hOrigin)
      obtain ⟨goal, hGoal⟩ :=
        built.exists_resolve_iff.mpr (Network.locates_of_known hDestination)
      let pair : StopPair α := ⟨index.nearest? start, index.nearest? goal⟩
      have hPair : (((StopFinder.nearest network index).find request.origin
          request.destination).run ()).result = .ok pair :=
        StopFinder.result_nearest_eq_ok_iff.mpr ⟨start, goal, hStart, hGoal, rfl⟩
      cases hChoice : choose pair with
      | walk reason =>
          obtain ⟨elements, hWalk⟩ := Teleport.exists_walk built walk request.origin
            request.destination hOrigin hDestination request.departureTime request.traveller
          rw [result_route_eq_ok_iff.mpr ⟨_, .walked hValid hPair hChoice hWalk, rfl⟩]
          refine .routed hValid fun a b hOffers => ?_
          obtain ⟨access, egress, hRide⟩ := hOffers.exists_choice hBoarding hPair
          cases hChoice.symm.trans hRide
      | ride access egress =>
          obtain ⟨hAccess, hEgress, hLink⟩ := choose_eq_ride_iff.mp hChoice
          have hOffers : service.Offers request access.link egress.link :=
            .stops hBoarding hPair hAccess hEgress hLink
          have hFrom := hStops access (StopIndex.mem_of_nearest? hAccess).1
          have hTo := hStops egress (StopIndex.mem_of_nearest? hEgress).1
          obtain ⟨toStop, hToStop⟩ := Teleport.exists_walk built walk request.origin
            access.location hOrigin hFrom request.departureTime request.traveller
          rcases Pathfinder.find_freeSpeed built
            ⟨access.link, egress.link, request.departureTime⟩ hFrom hTo hLink s with
            ⟨path, hPath, -, hRideable⟩ | ⟨hPath, hCut⟩
          · obtain ⟨fromStop, hFromStop⟩ := Teleport.exists_walk built walk egress.location
              request.destination hTo hDestination _ request.traveller
            rw [result_route_eq_ok_iff.mpr
              ⟨_, .ridden hValid hPair hChoice hToStop hPath rfl hFromStop, rfl⟩]
            exact .ridden hValid hOffers hRideable
          · rw [result_route_of_no_path hValid hPair hChoice hToStop hPath]
            exact .stranded hValid hOffers hCut

end Known

/-- On a network that was built, with every link that is come upon in the network, a request is
refused exactly if its departure time is not finite or negative. Otherwise it fails, for want of a
path, exactly if it would be ridden between two links of which the second cannot be reached from
the first. Every other request is answered, whatever was searched for before. -/
theorem Service.route_fails_iff [Plane α] [OrderedScalar α] {plan : NetworkPlan α}
    {network : Network α} (hBuild : plan.build = .ok network) {settings : ServiceSettings α}
    {walk : WalkSettings α} {index : Option (StopIndex α)} {service : Service α}
    (hStart : Service.start settings (Teleport.walker network walk)
      (index.map (StopFinder.nearest network)) = .ok service)
    (hStops : settings.scheme.usesStops → ∀ stops ∈ index, ∀ stop ∈ stops.stops,
      (network.link? stop.link).isSome)
    {request : TripRequest α} (hOrigin : (network.link? request.origin.link).isSome)
    (hDestination : (network.link? request.destination.link).isSome) (s : Search α) :
    let result := ((service.route (.freeSpeed network) request).run s).result
    (∀ fault, result = .error (.invalidRequest fault) ↔
      fault = .notFinite request.departureTime ∧ isFinite request.departureTime = false ∨
      fault = .negative request.departureTime ∧ isFinite request.departureTime ∧
        lt request.departureTime 0) ∧
    (∀ a b, result = .error (.path (.noPath a b)) ↔
      (isFinite request.departureTime ∧ lt request.departureTime 0 = false) ∧
        service.Offers request a b ∧ ¬network.Rideable a b) ∧
    ((∃ trip, result = .ok trip) ↔
      (isFinite request.departureTime ∧ lt request.departureTime 0 = false) ∧
        ∀ a b, service.Offers request a b → network.Rideable a b) ∧
    ∀ e, result = .error e →
      (∃ fault, e = .invalidRequest fault) ∨ ∃ a b, e = .path (.noPath a b) := by
  have built := Network.built_of_build hBuild
  obtain ⟨-, rfl, hWalker, hBoarding⟩ := Service.start_eq_ok_iff.mp hStart
  have hVerdict : service.Verdict network request
      ((service.route (.freeSpeed network) request).run s).result := by
    unfold route
    rcases hBoarding with ⟨-, hBoarding⟩ | ⟨stops, hUses, hFinder, hBoarding⟩
    · simp only [hBoarding]
      exact DoorToDoor.verdict built hWalker hOrigin hDestination hBoarding
    · obtain ⟨index, hIndex, rfl⟩ := Option.map_eq_some_iff.mp hFinder
      simp only [hBoarding]
      exact ViaStops.verdict built hWalker hOrigin hDestination hBoarding
        (hStops hUses index hIndex)
  intro result
  simp only [← TripRequest.validate_eq_error_iff, ← TripRequest.validate_eq_ok_iff]
  exact ⟨fun _ => hVerdict.refused_iff, fun _ _ => hVerdict.stranded_iff, hVerdict.routed_iff,
    fun _ hError => hVerdict.of_error hError⟩

/-- Two streets, the one ending where the other begins. -/
def streets : NetworkPlan Float where
  nodes := [⟨⟨"1"⟩, ⟨0, 0⟩⟩, ⟨⟨"2"⟩, ⟨0, 10⟩⟩, ⟨⟨"3"⟩, ⟨0, 20⟩⟩]
  links := [⟨⟨"a"⟩, ⟨"1"⟩, ⟨"2"⟩, 10, 5⟩, ⟨⟨"b"⟩, ⟨"2"⟩, ⟨"3"⟩, 10, 5⟩]

/-- The network of the two streets. -/
def streetNetwork : Network Float := streets.build.toOption.getD .empty

theorem build_streets : streets.build = .ok streetNetwork := by rfl

/-- The same trip the other way round. -/
def northboundRequest : TripRequest Float :=
  { southboundRequest with
    origin := southboundRequest.destination, destination := southboundRequest.origin }

/-- The stops on the two streets. -/
def streetStops : StopIndex Float := .ofStops [northStop, southStop] 5

/-- The default service over the two streets, under a given scheme. -/
def streetService (scheme : OperatingScheme) (boarding : Boarding Float) : Service Float :=
  ⟨{ ServiceSettings.default with scheme }, Teleport.walker streetNetwork .default, boarding⟩

/-- One can ride down the streets from door to door, but not back up from stop to stop. -/
theorem route_fails_streets :
    (∃ trip, (((streetService .doorToDoor .anyLink).route (.freeSpeed streetNetwork)
      southboundRequest).run Search.empty).result = .ok trip) ∧
    (((streetService .stopBased (.atStops (.nearest streetNetwork streetStops))).route
      (.freeSpeed streetNetwork) northboundRequest).run Search.empty).result =
        .error (.path (.noPath ⟨"b"⟩ ⟨"a"⟩)) ∧
    ¬streetNetwork.Rideable ⟨"b"⟩ ⟨"a"⟩ := by
  have hDoors : Service.start { ServiceSettings.default with scheme := .doorToDoor }
      (Teleport.walker streetNetwork .default)
      ((none : Option (StopIndex Float)).map (StopFinder.nearest streetNetwork)) =
        .ok (streetService .doorToDoor .anyLink) := by
    rfl
  have hStops : Service.start { ServiceSettings.default with scheme := .stopBased }
      (Teleport.walker streetNetwork .default)
      ((some streetStops).map (StopFinder.nearest streetNetwork)) =
        .ok (streetService .stopBased (.atStops (.nearest streetNetwork streetStops))) := by
    rfl
  have hNorth : (streetNetwork.link? southboundRequest.origin.link).isSome := rfl
  have hSouth : (streetNetwork.link? northboundRequest.origin.link).isSome := rfl
  have hKnown : ∀ stops ∈ some streetStops, ∀ stop ∈ stops.stops,
      (streetNetwork.link? stop.link).isSome := by
    rintro _ ⟨⟩ stop hStop
    have hListed := (Tiling.searchOrder_perm [northStop, southStop]).mem_iff.mp hStop
    rcases List.mem_pair.mp hListed with rfl | rfl
    · exact hNorth
    · exact hSouth
  obtain ⟨-, -, hAnswered, -⟩ :=
    Service.route_fails_iff build_streets hDoors nofun hNorth hSouth Search.empty
  obtain ⟨-, hStranded, -⟩ :=
    Service.route_fails_iff build_streets hStops (fun _ => hKnown) hSouth hNorth Search.empty
  have hMissed : (((Pathfinder.freeSpeed streetNetwork).find ⟨⟨"b"⟩, ⟨"a"⟩, 0⟩).run
      Search.empty).result = .error (.noPath ⟨"b"⟩ ⟨"a"⟩) := by
    rfl
  have hCut : ¬streetNetwork.Rideable ⟨"b"⟩ ⟨"a"⟩ := by
    rcases Pathfinder.find_freeSpeed (Network.built_of_build build_streets) ⟨⟨"b"⟩, ⟨"a"⟩, 0⟩
      rfl rfl (by decide) Search.empty with ⟨_, hFound, -⟩ | ⟨-, hCut⟩
    · cases hFound.symm.trans hMissed
    · exact hCut
  have hPair : (((StopFinder.nearest streetNetwork streetStops).find northboundRequest.origin
      northboundRequest.destination).run ()).result = .ok ⟨some southStop, some northStop⟩ := by
    rw [streetStops, StopIndex.ofStops, Tiling.searchOrder_of_le _ (by decide)]
    decide +kernel
  refine ⟨hAnswered.mpr ⟨by decide, fun a b hOffers => ?_⟩,
    (hStranded ⟨"b"⟩ ⟨"a"⟩).mpr ⟨by decide, .stops rfl hPair rfl rfl (by decide), hCut⟩,
    hCut⟩
  cases hOffers with
  | doors => exact ⟨_, _, rfl, rfl, .refl⟩
  | stops hBoarding => cases hBoarding

end DemandRide
