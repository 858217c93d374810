import DemandRide.Proofs.Itinerary.Timeline
import DemandRide.Proofs.Service.Fallbacks
import DemandRide.Proofs.Service.Modes

/-! What becomes of a walk that stands in for a ride between stops. Its network legs are named
after the service, and that is all: the walk is told by its elements as the walker has given
them. The name given is never that of network walks, so naming a walk twice is naming it once. -/
namespace DemandRide

variable {σ α : Type}

/-- An element of a walk and what is told of it: a network leg gets the name of the walks of the
service, and everything else is told as it is. -/
inductive Element.Attributed (mode : String) : Element α → Element α → Prop where
  | activity (activity : Activity α) : Attributed mode (.activity activity) (.activity activity)
  | network {leg : Leg α} (hMode : leg.mode = "walk") :
      Attributed mode (.leg leg) (.leg { leg with mode := mode ++ "_walk" })
  | other {leg : Leg α} (hMode : leg.mode ≠ "walk") : Attributed mode (.leg leg) (.leg leg)

namespace Fallback

variable {settings : ServiceSettings α} {elements : List (Element α)}

theorem retagLeg_of_mode_ne {leg : Leg α} (h : leg.mode ≠ walkMode) :
    retagLeg settings leg = leg :=
  if_neg h

theorem mode_retagLeg_ne (settings : ServiceSettings α) (leg : Leg α) :
    (retagLeg settings leg).mode ≠ walkMode := by
  by_cases hMode : leg.mode = walkMode
  · rw [retagLeg, if_pos hMode]
    exact settings.fallbackMode_ne_walkMode
  · rwa [retagLeg_of_mode_ne hMode]

theorem attributed_iff {element other : Element α} :
    element.Attributed settings.mode other ↔ element.mapLeg (retagLeg settings) = other := by
  constructor
  · intro h
    cases h with
    | activity activity => rfl
    | network hMode => exact congrArg Element.leg (if_pos hMode)
    | other hMode => exact congrArg Element.leg (if_neg hMode)
  · rintro rfl
    cases element with
    | activity activity => exact .activity activity
    | leg leg =>
        by_cases hMode : leg.mode = walkMode
        · rw [Element.mapLeg, retagLeg, if_pos hMode]
          exact .network hMode
        · rw [Element.mapLeg, retagLeg_of_mode_ne hMode]
          exact .other hMode

theorem forall₂_attributed_iff {others : List (Element α)} :
    List.Forall₂ (Element.Attributed settings.mode) elements others ↔
      others = retag settings elements := by
  have hAttributed : Element.Attributed settings.mode =
      fun element other => element.mapLeg (retagLeg settings) = other :=
    funext₂ fun _ _ => propext attributed_iff
  rw [hAttributed, ← List.forall₂_map_left_iff, List.forall₂_eq_eq_eq, eq_comm]
  rfl

theorem mode_ne_of_mem_retag {leg : Leg α} (h : .leg leg ∈ retag settings elements) :
    leg.mode ≠ walkMode := by
  obtain ⟨element, -, hElement⟩ := List.mem_map.mp h
  cases element with
  | activity activity => cases hElement
  | leg original =>
      cases hElement
      exact mode_retagLeg_ne settings original

/-- There is nothing to name where no leg has the mode of network walks. -/
theorem retag_eq_self (h : ∀ leg, .leg leg ∈ elements → leg.mode ≠ walkMode) :
    retag settings elements = elements := by
  have hKept : ∀ element ∈ elements, element.mapLeg (retagLeg settings) = element := by
    intro element hElement
    cases element with
    | activity activity => rfl
    | leg leg => exact congrArg Element.leg (retagLeg_of_mode_ne (h leg hElement))
  exact (List.map_congr_left hKept).trans (List.map_id' elements)

end Fallback

/-- Where the stops found bar a ride, the trip is the walk, whatever its elements are, and it is
attributed to the service: it is the one list of elements that are told as `Element.Attributed`
says, one for one. So it is as long, with activities and legs in the same places, and takes its
time alike from every start. No leg has the mode of network walks any more, and to name the walk
again, after this service or another, changes nothing. -/
theorem ViaStops.kept_walk [Scalar α] (settings : ServiceSettings α) (walker : Walker α)
    (stops : StopFinder α) (finder : Pathfinder σ α) {request : TripRequest α}
    (hValid : request.validate = .ok ()) {pair : StopPair α} {reason : FallbackReason}
    (hPair : ((stops.find request.origin request.destination).run ()).result = .ok pair)
    (hBars : pair.Bars reason) {elements : List (Element α)}
    (hWalk : walker.walk request.origin request.destination request.departureTime
      request.traveller = .ok elements) (s : σ) :
    ∃ kept : List (Element α),
      ((route settings walker stops finder request).run s).result = .ok ⟨kept⟩ ∧
        (∀ others, List.Forall₂ (Element.Attributed settings.mode) elements others ↔
          others = kept) ∧
        kept.length = elements.length ∧
        kept.map Element.kind = elements.map Element.kind ∧
        (∀ start, (Trip.mk kept).timeline start = (Trip.mk elements).timeline start) ∧
        (∀ leg, .leg leg ∈ kept → leg.mode ≠ "walk") ∧
        ∀ again : ServiceSettings α, Fallback.retag again kept = kept := by
  refine ⟨Fallback.retag settings elements, ?_, fun others => Fallback.forall₂_attributed_iff,
    List.length_map _, Fallback.map_kind_retag settings elements,
    Element.readings_congr (Fallback.map_duration_retag settings elements),
    fun leg => Fallback.mode_ne_of_mem_retag, fun again =>
      Fallback.retag_eq_self fun leg => Fallback.mode_ne_of_mem_retag⟩
  rw [ViaStops.result_route_of_bars settings walker finder hValid stops hPair hBars s, hWalk]
  rfl

/-- Of a walk with legs of both kinds and a rest, the leg on the network alone is renamed. -/
theorem ViaStops.kept_walk_exactStroll :
    ((route .default exactStroller (.constant ⟨none, none⟩) (.freeSpeed exactStreets)
        exactErrand).run Search.empty).result =
      .ok ⟨[.leg (exactStretch offNetworkMode 60 30 (some (Scalar.ofNat 30))),
        .activity (.plain walkInteraction (.onLink ⟨"a"⟩)),
        .leg (exactStretch "drt_walk" 90 10 none),
        .activity (.withMaximumDuration (.plain "rest" (.onLink ⟨"a"⟩)) (Scalar.ofNat 5)),
        .leg (exactStretch offNetworkMode 105 20 (some (Scalar.ofNat 20)))]⟩ := by
  have hValid : exactErrand.validate = .ok () := validate_exactRequest
  obtain ⟨kept, hRoute, hOthers, -⟩ := ViaStops.kept_walk .default exactStroller
    (.constant ⟨none, none⟩) (.freeSpeed exactStreets) hValid rfl (.noAccess rfl) rfl Search.empty
  have hKept := (hOthers _).mp (.cons (.other (by decide)) (.cons (.activity _)
    (.cons (.network rfl) (.cons (.activity _) (.cons (.other (by decide)) .nil)))))
  rw [hRoute, ← hKept]
  rfl

end DemandRide
