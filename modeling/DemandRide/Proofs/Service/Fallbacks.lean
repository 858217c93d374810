import DemandRide.Proofs.Service.Postponement
import DemandRide.Proofs.Service.Reports

/-! The two fallbacks compared. From door to door a walk is told as one leg, by way of stops it is
kept with its legs in another mode. A mode adds neither time nor distance, and where sums do not
depend on where they are begun, both take as long and lead as far. -/
namespace DemandRide

open Session

variable {σ σ' α : Type}

/-- The distances of the legs, where they are known. -/
def Element.knownDistances (elements : List (Element α)) : List α :=
  (elements.filterMap Element.leg?).filterMap Leg.distance

section Totals

variable [Scalar α]

/-- The time that elements take together. -/
def Element.totalDuration (elements : List (Element α)) : α :=
  Scalar.total (elements.map Element.duration)

/-- How far the legs of a trip lead as far as it is known. -/
def Trip.legDistance (trip : Trip α) : α := Scalar.total (Element.knownDistances trip.elements)

/-- The one leg of a trip that is walked within a link. -/
def Fallback.oneLeg (settings : ServiceSettings α) (request : TripRequest α)
    (elements : List (Element α)) : Leg α where
  mode := settings.fallbackMode
  startLink := request.origin.link
  endLink := request.destination.link
  departureTime := request.departureTime
  travelTime := Element.totalDuration elements
  distance := some (Scalar.total (Element.knownDistances elements))
  ride := none

variable [AdditiveScalar α]

theorem Element.advanceOver_eq_add (time : α) (elements : List (Element α)) :
    advanceOver time elements = time + totalDuration elements := by
  rw [totalDuration, ← AdditiveScalar.foldl_add, List.foldl_map]
  rfl

namespace Fallback

theorem collapse_eq_oneLeg (settings : ServiceSettings α) (request : TripRequest α)
    (elements : List (Element α)) :
    collapse settings request elements = oneLeg settings request elements := by
  have hTime : Element.advanceOver 0 elements = Element.totalDuration elements :=
    (Element.advanceOver_eq_add 0 elements).trans (AdditiveScalar.zero_add _)
  have hDistance : walkedDistance elements = Scalar.total (Element.knownDistances elements) :=
    (AdditiveScalar.foldl_add (-0) _).trans (AdditiveScalar.neg_zero_add _)
  rw [collapse, hTime, hDistance]
  rfl

end Fallback

end Totals

namespace Fallback

/-- The mode of a leg says nothing about its time. -/
theorem map_duration_retag [Scalar α] (settings : ServiceSettings α)
    (elements : List (Element α)) :
    (retag settings elements).map Element.duration = elements.map Element.duration := by
  rw [retag, List.map_map]
  refine List.map_congr_left fun element _ => ?_
  cases element with
  | activity activity => rfl
  | leg leg =>
      change (retagLeg settings leg).travelTime = leg.travelTime
      unfold retagLeg
      split <;> rfl

/-- Nor does it about its distance. -/
theorem knownDistances_retag (settings : ServiceSettings α) (elements : List (Element α)) :
    Element.knownDistances (retag settings elements) = Element.knownDistances elements := by
  rw [Element.knownDistances, Element.knownDistances, retag, List.filterMap_map,
    List.filterMap_filterMap, List.filterMap_filterMap]
  refine List.filterMap_congr fun element _ => ?_
  cases element with
  | activity activity => rfl
  | leg leg =>
      change (retagLeg settings leg).distance = leg.distance
      unfold retagLeg
      split <;> rfl

variable [Scalar α] [AdditiveScalar α]

/-- A walk takes as long in one leg as it does leg by leg. -/
theorem endTime_oneLeg (settings : ServiceSettings α) (request : TripRequest α)
    (elements : List (Element α)) (start : α) :
    (Trip.mk [.leg (oneLeg settings request elements)]).endTime start =
      (Trip.mk (retag settings elements)).endTime start := by
  change start + Element.totalDuration elements =
    Element.advanceOver start (retag settings elements)
  rw [Element.advanceOver_eq_add, Element.totalDuration, Element.totalDuration,
    map_duration_retag]

/-- And it leads as far. -/
theorem legDistance_oneLeg (settings : ServiceSettings α) (request : TripRequest α)
    (elements : List (Element α)) :
    (Trip.mk [.leg (oneLeg settings request elements)]).legDistance =
      (Trip.mk (retag settings elements)).legDistance := by
  change Scalar.total (Element.knownDistances elements) + 0 =
    Scalar.total (Element.knownDistances (retag settings elements))
  rw [knownDistances_retag, ExactScalar.add_comm, AdditiveScalar.zero_add]

end Fallback

/-- For a request within a link, where no ride between stops is to be had, the two fallbacks fail
alike, with the failure of the walk, or they tell of the same walk: the one as a leg for the whole
of it, the other as it is, and both take as long and lead as far. -/
theorem fallbacks_agree [Scalar α] [AdditiveScalar α] (settings : ServiceSettings α)
    (walker : Walker α) (stops : StopFinder α) (finder : Pathfinder σ α)
    (otherFinder : Pathfinder σ' α) {request : TripRequest α}
    (hValid : request.validate = .ok ()) (hLink : request.origin.link = request.destination.link)
    {pair : StopPair α} {reason : FallbackReason}
    (hPair : ((stops.find request.origin request.destination).run ()).result = .ok pair)
    (hBars : pair.Bars reason) (s : σ) (s' : σ') :
    let walk := walker.walk request.origin request.destination request.departureTime
      request.traveller
    let direct := ((DoorToDoor.route settings walker finder request).run s).result
    let viaStops := ((ViaStops.route settings walker stops otherFinder request).run s').result
    (∀ e, direct = .error e ↔ viaStops = .error e) ∧
      (∀ cause, walk = .error cause → direct = .error (.network cause)) ∧
      ∀ elements, walk = .ok elements →
        let collapsed : Trip α := ⟨[.leg (Fallback.oneLeg settings request elements)]⟩
        let kept : Trip α := ⟨Fallback.retag settings elements⟩
        direct = .ok collapsed ∧ viaStops = .ok kept ∧
          collapsed.endTime request.departureTime = kept.endTime request.departureTime ∧
          collapsed.legDistance = kept.legDistance := by
  intro walk direct viaStops
  have hDirect : direct = _ :=
    DoorToDoor.result_route_of_sameLink settings walker finder hValid hLink s
  have hViaStops : viaStops = _ :=
    ViaStops.result_route_of_bars settings walker otherFinder hValid stops hPair hBars s'
  change direct = (walk.map _).mapError _ at hDirect
  change viaStops = (walk.map _).mapError _ at hViaStops
  rw [hDirect, hViaStops]
  cases walk with
  | error cause =>
      refine ⟨fun e => Iff.rfl, fun other hCause => ?_, nofun⟩
      cases hCause
      rfl
  | ok elements =>
      refine ⟨fun e => by simp [Except.map, Except.mapError], nofun, fun others hWalk => ?_⟩
      cases hWalk
      refine ⟨?_, rfl, Fallback.endTime_oneLeg .., Fallback.legDistance_oneLeg ..⟩
      rw [← Fallback.collapse_eq_oneLeg]
      rfl

noncomputable section

/-- From the one street and back to it. -/
def exactErrand : TripRequest ℝ := { exactRequest with destination := exactRequest.origin }

/-- A leg on the first street. -/
def exactStretch (mode : String) (time seconds : Nat) (distance : Option ℝ) : Leg ℝ :=
  { Leg.plain mode ⟨"a"⟩ ⟨"a"⟩ (Scalar.ofNat time) (Scalar.ofNat seconds) with distance }

/-- Three legs, one of them of unknown distance, with a change of no set duration and a rest. -/
def exactStroll : List (Element ℝ) :=
  [.leg (exactStretch offNetworkMode 60 30 (some (Scalar.ofNat 30))),
    .activity (.plain walkInteraction (.onLink ⟨"a"⟩)),
    .leg (exactStretch walkMode 90 10 none),
    .activity (.withMaximumDuration (.plain "rest" (.onLink ⟨"a"⟩)) (Scalar.ofNat 5)),
    .leg (exactStretch offNetworkMode 105 20 (some (Scalar.ofNat 20)))]

/-- Takes this walk whatever is asked. -/
def exactStroller : Walker ℝ := ⟨fun _ _ _ _ => .ok exactStroll⟩

end

theorem fallbacks_agree_exactStroll :
    ∃ collapsed kept : Trip ℝ,
      ((DoorToDoor.route .default exactStroller (.freeSpeed exactStreets) exactErrand).run
        Search.empty).result = .ok collapsed ∧
      ((ViaStops.route .default exactStroller (.constant ⟨none, none⟩) (.freeSpeed exactStreets)
        exactErrand).run Search.empty).result = .ok kept ∧
      collapsed.legs.map Leg.distance = [some (Scalar.ofNat 50)] ∧
      kept.modes = ["non_network_walk", "drt_walk", "non_network_walk"] ∧
      collapsed.endTime (Scalar.ofNat 60) = kept.endTime (Scalar.ofNat 60) ∧
      collapsed.legDistance = kept.legDistance := by
  have hValid : exactErrand.validate = .ok () := validate_exactRequest
  obtain ⟨-, -, hWalked⟩ := fallbacks_agree .default exactStroller (.constant ⟨none, none⟩)
    (.freeSpeed exactStreets) (.freeSpeed exactStreets) hValid rfl rfl (.noAccess rfl)
    Search.empty Search.empty
  obtain ⟨hDirect, hViaStops, hTime, hDistance⟩ := hWalked exactStroll rfl
  have hSum : (Scalar.total [Scalar.ofNat 30, Scalar.ofNat 20] : ℝ) = Scalar.ofNat 50 := by
    change (Scalar.ofNat 30 + (Scalar.ofNat 20 + Scalar.ofNat 0) : ℝ) = Scalar.ofNat 50
    norm_num [Exact.ofNat_eq]
  exact ⟨_, _, hDirect, hViaStops, congrArg (fun d => [some d]) hSum, rfl, hTime, hDistance⟩

end DemandRide
