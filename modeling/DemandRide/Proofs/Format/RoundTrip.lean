import DemandRide.Format.Scenario
import DemandRide.Proofs.Json.Record
import DemandRide.Proofs.Scenario.Stops

/-! Whatever is written is read back, if all of its numbers are finite. A number that is not
finite is written as `null`, and no reader takes it for a number. -/
namespace DemandRide

open Json

variable {α : Type}

section Numbers

def Point.numbers (point : Point α) : List α := [point.x, point.y]

def Location.numbers (location : Location α) : List α :=
  location.point.toList.flatMap Point.numbers

def Stop.numbers (stop : Stop α) : List α := stop.point.numbers

def Activity.numbers (activity : Activity α) : List α :=
  activity.location.numbers ++ activity.maximumDuration.toList

def RideTerms.numbers (terms : RideTerms α) : List α :=
  [terms.distance, terms.unsharedRideTime, terms.maxTravelTime, terms.maxWaitTime]

def Leg.numbers (leg : Leg α) : List α :=
  [leg.departureTime, leg.travelTime] ++ leg.distance.toList ++
    leg.ride.toList.flatMap RideTerms.numbers

def Element.numbers : Element α → List α
  | .activity a => a.numbers
  | .leg l => l.numbers

def Trip.numbers (trip : Trip α) : List α := trip.elements.flatMap Element.numbers

def Plan.numbers (plan : Plan α) : List α := plan.elements.flatMap Element.numbers

def TripRequest.numbers (request : TripRequest α) : List α :=
  request.origin.numbers ++ request.destination.numbers ++ [request.departureTime]

def ServiceSettings.numbers (settings : ServiceSettings α) : List α :=
  [settings.alpha, settings.beta, settings.maxWaitTime, settings.maxWalkDistance]

def WalkSettings.numbers (settings : WalkSettings α) : List α :=
  [settings.speed, settings.beelineFactor]

def Node.numbers (node : Node α) : List α := node.point.numbers

def Link.numbers (link : Link α) : List α := [link.length, link.freeSpeed]

def NetworkPlan.numbers (plan : NetworkPlan α) : List α :=
  plan.nodes.flatMap Node.numbers ++ plan.links.flatMap Link.numbers

def Ring.numbers (ring : Ring α) : List α := ring.flatMap Point.numbers

def Scenario.numbers (scenario : Scenario α) : List α :=
  scenario.service.numbers ++ scenario.walk.numbers ++ scenario.network.numbers ++
    scenario.stops.flatMap Stop.numbers ++
    scenario.serviceArea.toList.flatMap (List.flatMap Ring.numbers) ++
    scenario.requests.flatMap TripRequest.numbers

end Numbers

variable [Scalar α]

theorem Id.readsBack {kind : IdKind} :
    ReadsBack (fun _ => []) Id.toJson (ofJson? : Json α → Option (Id kind)) := by
  intro id _ json hJson
  cases hJson
  rfl

theorem OperatingScheme.readsBack :
    ReadsBack (fun _ => []) toJson (ofJson? : Json α → Option OperatingScheme) := by
  intro scheme _ json hJson
  cases hJson
  cases scheme <;> rfl

theorem ElementKind.readsBack : ReadsBack (fun _ => []) (fun kind => .str kind.word)
    (ofJson? : Json α → Option ElementKind) := by
  intro kind _ json hJson
  cases hJson
  cases kind <;> rfl

theorem Point.readsBack : ReadsBack numbers toJson (ofJson? : Json α → Option (Point α)) := by
  intro point hFinite json hJson
  simp only [numbers, List.forall_mem_cons] at hFinite
  obtain ⟨hFiniteX, hFiniteY, -⟩ := hFinite
  obtain ⟨field, hFields, hField⟩ := fields?_of_rearranged ["x", "y"] (by simp) hJson
  have hX := ReadsBack.number.required (by simpa) (hField "x")
  have hY := ReadsBack.number.required (by simpa) (hField "y")
  simp [ofJson?, hFields, hX, hY]

theorem Location.readsBack :
    ReadsBack numbers toJson (ofJson? : Json α → Option (Location α)) := by
  intro location hFinite json hJson
  obtain ⟨field, hFields, hField⟩ :=
    fields?_of_rearranged_object ["link", "coord", "stop"] (by simp) hJson
  have hLink := Id.readsBack.required (by simp) (hField "link")
  have hPoint := Point.readsBack.optional rfl hFinite (hField "coord")
  have hStop := Id.readsBack.optional rfl (by simp) (hField "stop")
  simp [ofJson?, hFields, hLink, hPoint, hStop]

theorem Stop.readsBack : ReadsBack numbers toJson (ofJson? : Json α → Option (Stop α)) := by
  intro stop hFinite json hJson
  obtain ⟨field, hFields, hField⟩ :=
    fields?_of_rearranged ["id", "link", "coord"] (by simp) hJson
  have hId := Id.readsBack.required (by simp) (hField "id")
  have hLink := Id.readsBack.required (by simp) (hField "link")
  have hPoint := Point.readsBack.required hFinite (hField "coord")
  simp [ofJson?, hFields, hId, hLink, hPoint]

theorem Activity.readsBack :
    ReadsBack numbers toJson (ofJson? : Json α → Option (Activity α)) := by
  intro activity hFinite json hJson
  obtain ⟨hPlace, hTime⟩ := List.forall_mem_append.mp hFinite
  obtain ⟨field, hFields, hField⟩ :=
    fields?_of_rearranged_object ["type", "location", "maximumDuration"] (by simp [members]) hJson
  have hType := ReadsBack.text.required (by simp) (hField "type")
  have hLocation := Location.readsBack.required hPlace (hField "location")
  have hDuration := ReadsBack.number.optional rfl (by simpa using hTime) (hField "maximumDuration")
  simp [ofJson?, hFields, hType, hLocation, hDuration]

theorem RideTerms.readsBack :
    ReadsBack numbers toJson (ofJson? : Json α → Option (RideTerms α)) := by
  intro terms hFinite json hJson
  simp only [numbers, List.forall_mem_cons] at hFinite
  obtain ⟨hLength, hDirect, hRide, hWait, -⟩ := hFinite
  obtain ⟨field, hFields, hField⟩ := fields?_of_rearranged
    ["distance", "unsharedRideTime", "maxTravelTime", "maxWaitTime"] (by simp) hJson
  have hDistance := ReadsBack.number.required (by simpa) (hField "distance")
  have hUnshared := ReadsBack.number.required (by simpa) (hField "unsharedRideTime")
  have hMaxTravel := ReadsBack.number.required (by simpa) (hField "maxTravelTime")
  have hMaxWait := ReadsBack.number.required (by simpa) (hField "maxWaitTime")
  simp [ofJson?, hFields, hDistance, hUnshared, hMaxTravel, hMaxWait]

theorem Leg.readsBack : ReadsBack numbers toJson (ofJson? : Json α → Option (Leg α)) := by
  intro leg hFinite json hJson
  simp only [numbers, List.forall_mem_append, List.forall_mem_cons] at hFinite
  obtain ⟨⟨⟨hDeparts, hTravels, -⟩, hLength⟩, hTerms⟩ := hFinite
  obtain ⟨field, hFields, hField⟩ := fields?_of_rearranged_object
    ["mode", "startLink", "endLink", "departureTime", "travelTime", "distance", "ride"]
    (by simp [members]) hJson
  have hMode := ReadsBack.text.required (by simp) (hField "mode")
  have hStart := Id.readsBack.required (by simp) (hField "startLink")
  have hEnd := Id.readsBack.required (by simp) (hField "endLink")
  have hDeparture := ReadsBack.number.required (by simpa) (hField "departureTime")
  have hTravel := ReadsBack.number.required (by simpa) (hField "travelTime")
  have hDistance := ReadsBack.number.optional rfl (by simpa using hLength) (hField "distance")
  have hRide := RideTerms.readsBack.optional rfl hTerms (hField "ride")
  simp [ofJson?, hFields, hMode, hStart, hEnd, hDeparture, hTravel, hDistance, hRide]

theorem Point.readable_toJson (point : Point α) : point.toJson.readable := by
  simp [toJson, readable, readableMembers, readable_number]

theorem Location.readable_toJson (location : Location α) : location.toJson.readable := by
  simp [toJson, readable_object, Id.toJson, readable, Point.readable_toJson]

theorem RideTerms.readable_toJson (terms : RideTerms α) : terms.toJson.readable := by
  simp [toJson, readable, readableMembers, readable_number]

/-- Nothing is written of an element that could not be read. -/
theorem Element.readable_toJson (element : Element α) : element.toJson.readable := by
  cases element with
  | activity a =>
      simp [toJson, Activity.members, readable_object, Location.readable_toJson, readable_number,
        readable]
  | leg l =>
      simp [toJson, Leg.members, readable_object, Id.toJson, RideTerms.readable_toJson,
        readable_number, readable]

/-- An element is told by its kind and read from the other members. -/
theorem Element.ofJson?_eq_ofKind? (kind : ElementKind)
    {members : List (String × Option (Json α))} (hNodup : ("kind" :: members.map Prod.fst).Nodup)
    {json : Json α} (hReadable : json.readable)
    (hJson : Rearranged (object (("kind", some (.str kind.word)) :: members)) json) :
    ∃ rest, Rearranged (object members) rest ∧ ofJson? json = ofKind? kind rest := by
  have hPresent : ("kind" :: (present members).map Prod.fst).Nodup :=
    (sublist_present.cons_cons "kind").nodup hNodup
  obtain ⟨others, found, rfl, hOnce, hFound, hWord, hRest⟩ := tag_of_rearranged hPresent hJson
  have hKind := ElementKind.readsBack kind (by simp) found hWord
  exact ⟨_, hRest, by simp [ofJson?, hReadable, hOnce, hFound, hKind]⟩

theorem Element.readsBack : ReadsBack numbers toJson (ofJson? : Json α → Option (Element α)) := by
  intro element hFinite json hJson
  have hReadable := hJson.readable element.readable_toJson
  cases element with
  | activity a =>
      obtain ⟨rest, hRest, hRead⟩ :=
        ofJson?_eq_ofKind? .activity (by simp [Activity.members]) hReadable hJson
      rw [hRead, ofKind?, Activity.readsBack a hFinite rest hRest]
      rfl
  | leg l =>
      obtain ⟨rest, hRest, hRead⟩ :=
        ofJson?_eq_ofKind? .leg (by simp [Leg.members]) hReadable hJson
      rw [hRead, ofKind?, Leg.readsBack l hFinite rest hRest]
      rfl

theorem Trip.readsBack : ReadsBack numbers toJson (ofJson? : Json α → Option (Trip α)) := by
  intro trip hFinite json hJson
  rw [ofJson?, Element.readsBack.list trip.elements hFinite json hJson]
  rfl

theorem Plan.readsBack : ReadsBack numbers toJson (ofJson? : Json α → Option (Plan α)) := by
  intro plan hFinite json hJson
  rw [ofJson?, Element.readsBack.list plan.elements hFinite json hJson]
  rfl

theorem TripRequest.readsBack :
    ReadsBack numbers toJson (ofJson? : Json α → Option (TripRequest α)) := by
  intro request hFinite json hJson
  simp only [numbers, List.forall_mem_append] at hFinite
  obtain ⟨⟨hFrom, hTo⟩, hTime⟩ := hFinite
  obtain ⟨field, hFields, hField⟩ := fields?_of_rearranged
    ["origin", "destination", "departureTime", "traveller", "originActivity",
      "destinationActivity"] (by simp) hJson
  have hOrigin := Location.readsBack.required hFrom (hField "origin")
  have hDestination := Location.readsBack.required hTo (hField "destination")
  have hDeparture := ReadsBack.number.required hTime (hField "departureTime")
  have hTraveller := Id.readsBack.required (by simp) (hField "traveller")
  have hBefore := ReadsBack.text.withDefault (by simp) (hField "originActivity")
  have hAfter := ReadsBack.text.withDefault (by simp) (hField "destinationActivity")
  simp [ofJson?, hFields, hOrigin, hDestination, hDeparture, hTraveller, hBefore, hAfter]

theorem ServiceSettings.readsBack :
    ReadsBack numbers toJson (ofJson? : Json α → Option (ServiceSettings α)) := by
  intro settings hFinite json hJson
  simp only [numbers, List.forall_mem_cons] at hFinite
  obtain ⟨hFactor, hSeconds, hWait, hRadius, -⟩ := hFinite
  obtain ⟨field, hFields, hField⟩ := fields?_of_rearranged
    ["mode", "operatingScheme", "maxTravelTimeAlpha", "maxTravelTimeBeta", "maxWaitTime",
      "insertAccessEgressWalk", "printDetailedWarnings", "maxWalkDistance"] (by simp) hJson
  have hMode := ReadsBack.text.withDefault (by simp) (hField "mode")
  have hScheme := OperatingScheme.readsBack.withDefault (by simp) (hField "operatingScheme")
  have hAlpha := ReadsBack.number.withDefault (by simpa) (hField "maxTravelTimeAlpha")
  have hBeta := ReadsBack.number.withDefault (by simpa) (hField "maxTravelTimeBeta")
  have hMaxWait := ReadsBack.number.withDefault (by simpa) (hField "maxWaitTime")
  have hWalks := ReadsBack.bool.withDefault (by simp) (hField "insertAccessEgressWalk")
  have hReports := ReadsBack.bool.withDefault (by simp) (hField "printDetailedWarnings")
  have hMaxWalk := ReadsBack.number.withDefault (by simpa) (hField "maxWalkDistance")
  simp [ofJson?, hFields, hMode, hScheme, hAlpha, hBeta, hMaxWait, hWalks, hReports, hMaxWalk]

theorem WalkSettings.readsBack :
    ReadsBack numbers toJson (ofJson? : Json α → Option (WalkSettings α)) := by
  intro settings hFinite json hJson
  simp only [numbers, List.forall_mem_cons] at hFinite
  obtain ⟨hPace, hFactor, -⟩ := hFinite
  obtain ⟨field, hFields, hField⟩ :=
    fields?_of_rearranged ["speed", "beelineDistanceFactor", "accessEgress"] (by simp) hJson
  have hSpeed := ReadsBack.number.withDefault (by simpa) (hField "speed")
  have hBeeline := ReadsBack.number.withDefault (by simpa) (hField "beelineDistanceFactor")
  have hAccess := ReadsBack.bool.withDefault (by simp) (hField "accessEgress")
  simp [ofJson?, hFields, hSpeed, hBeeline, hAccess]

theorem Node.readsBack : ReadsBack numbers toJson (ofJson? : Json α → Option (Node α)) := by
  intro node hFinite json hJson
  simp only [numbers, Point.numbers, List.forall_mem_cons] at hFinite
  obtain ⟨hFiniteX, hFiniteY, -⟩ := hFinite
  obtain ⟨field, hFields, hField⟩ := fields?_of_rearranged ["id", "x", "y"] (by simp) hJson
  have hId := Id.readsBack.required (by simp) (hField "id")
  have hX := ReadsBack.number.required (by simpa) (hField "x")
  have hY := ReadsBack.number.required (by simpa) (hField "y")
  simp [ofJson?, hFields, hId, hX, hY]

theorem Link.readsBack : ReadsBack numbers toJson (ofJson? : Json α → Option (Link α)) := by
  intro link hFinite json hJson
  simp only [numbers, List.forall_mem_cons] at hFinite
  obtain ⟨hMetres, hSpeed, -⟩ := hFinite
  obtain ⟨field, hFields, hField⟩ :=
    fields?_of_rearranged ["id", "from", "to", "length", "freespeed"] (by simp) hJson
  have hId := Id.readsBack.required (by simp) (hField "id")
  have hSource := Id.readsBack.required (by simp) (hField "from")
  have hTarget := Id.readsBack.required (by simp) (hField "to")
  have hLength := ReadsBack.number.required (by simpa) (hField "length")
  have hFreeSpeed := ReadsBack.number.required (by simpa) (hField "freespeed")
  simp [ofJson?, hFields, hId, hSource, hTarget, hLength, hFreeSpeed]

theorem NetworkPlan.readsBack :
    ReadsBack numbers toJson (ofJson? : Json α → Option (NetworkPlan α)) := by
  intro plan hFinite json hJson
  obtain ⟨hPoints, hMeasures⟩ := List.forall_mem_append.mp hFinite
  obtain ⟨field, hFields, hField⟩ := fields?_of_rearranged ["nodes", "links"] (by simp) hJson
  have hNodes := Node.readsBack.list.required hPoints (hField "nodes")
  have hLinks := Link.readsBack.list.required hMeasures (hField "links")
  simp [ofJson?, hFields, hNodes, hLinks]

/-- A corner is written as a pair, whose order is its meaning. -/
theorem Ring.corner_readsBack : ReadsBack Point.numbers
    (fun point => .arr [.number point.x, .number point.y])
    (corner? : Json α → Option (Point α)) := by
  intro point hFinite json hJson
  simp only [Point.numbers, List.forall_mem_cons] at hFinite
  obtain ⟨hFiniteX, hFiniteY, -⟩ := hFinite
  obtain ⟨others, hItems, rfl⟩ := exists_of_rearranged_arr hJson
  cases hItems with
  | @cons _ x _ _ hFirst hRest =>
      cases hRest with
      | @cons _ y _ _ hSecond hNone =>
          cases hNone
          have hX := ReadsBack.number point.x (by simpa) x hFirst
          have hY := ReadsBack.number point.y (by simpa) y hSecond
          simp [corner?, hX, hY]

theorem Ring.readsBack : ReadsBack numbers toJson (ofJson? : Json α → Option (Ring α)) :=
  Ring.corner_readsBack.list

theorem Scenario.readsBack :
    ReadsBack numbers toJson (ofJson? : Json α → Option (Scenario α)) := by
  intro scenario hFinite json hJson
  simp only [numbers, List.forall_mem_append] at hFinite
  obtain ⟨⟨⟨⟨⟨hTerms, hPace⟩, hRoads⟩, hPlaces⟩, hCorners⟩, hTrips⟩ := hFinite
  obtain ⟨field, hFields, hField⟩ := fields?_of_rearranged_object
    ["service", "walk", "network", "stops", "serviceArea", "requests", "checkPlans", "workers"]
    (by simp) hJson
  have hService := ServiceSettings.readsBack.withDefault hTerms (hField "service")
  have hWalk := WalkSettings.readsBack.withDefault hPace (hField "walk")
  have hNetwork := NetworkPlan.readsBack.required hRoads (hField "network")
  have hStops := Stop.readsBack.list.withDefault hPlaces (hField "stops")
  have hArea := Ring.readsBack.list.optional rfl hCorners (hField "serviceArea")
  have hRequests := TripRequest.readsBack.list.withDefault hTrips (hField "requests")
  have hCheck := ReadsBack.bool.withDefault (by simp) (hField "checkPlans")
  -- The count is written by way of the integers, which has to be undone by hand.
  have hWorkers : Json.optional toNat? (field "workers") = some scenario.workers :=
    ReadsBack.nat.optional rfl (by simp)
      (by simpa [List.lookup, Option.map_eq_bind, Option.bind_assoc, Function.comp_def]
        using hField "workers")
  simp [ofJson?, hFields, hService, hWalk, hNetwork, hStops, hArea, hRequests, hCheck, hWorkers]

/-- Reading undoes writing in the whole file format: a value whose numbers are all finite is
found again in what was written for it, and so it is when the members of the objects are held in
another order. -/
theorem format_readsBack :
    ReadsBack Location.numbers Location.toJson (Location.ofJson? : Json α → _) ∧
    ReadsBack Stop.numbers Stop.toJson (Stop.ofJson? : Json α → _) ∧
    ReadsBack Activity.numbers Activity.toJson (Activity.ofJson? : Json α → _) ∧
    ReadsBack RideTerms.numbers RideTerms.toJson (RideTerms.ofJson? : Json α → _) ∧
    ReadsBack Leg.numbers Leg.toJson (Leg.ofJson? : Json α → _) ∧
    ReadsBack Element.numbers Element.toJson (Element.ofJson? : Json α → _) ∧
    ReadsBack Trip.numbers Trip.toJson (Trip.ofJson? : Json α → _) ∧
    ReadsBack Plan.numbers Plan.toJson (Plan.ofJson? : Json α → _) ∧
    ReadsBack TripRequest.numbers TripRequest.toJson (TripRequest.ofJson? : Json α → _) ∧
    ReadsBack ServiceSettings.numbers ServiceSettings.toJson
      (ServiceSettings.ofJson? : Json α → _) ∧
    ReadsBack WalkSettings.numbers WalkSettings.toJson (WalkSettings.ofJson? : Json α → _) ∧
    ReadsBack NetworkPlan.numbers NetworkPlan.toJson (NetworkPlan.ofJson? : Json α → _) ∧
    ReadsBack Scenario.numbers Scenario.toJson (Scenario.ofJson? : Json α → _) :=
  ⟨Location.readsBack, Stop.readsBack, Activity.readsBack, RideTerms.readsBack, Leg.readsBack,
    Element.readsBack, Trip.readsBack, Plan.readsBack, TripRequest.readsBack,
    ServiceSettings.readsBack, WalkSettings.readsBack, NetworkPlan.readsBack, Scenario.readsBack⟩

/-- The service on the two streets, a trip on them and the plan of this trip are read back, and a
stop is although its members are held from the last to the first. -/
theorem format_readsBack_streets :
    let plan := southboundRequest.toPlan southboundTrip
    (∀ n ∈ streetScenario.numbers, Scalar.isFinite n) ∧
    Scenario.ofJson? streetScenario.toJson = some streetScenario ∧
    (∀ n ∈ southboundTrip.numbers, Scalar.isFinite n) ∧
    Trip.ofJson? southboundTrip.toJson = some southboundTrip ∧
    (∀ n ∈ plan.numbers, Scalar.isFinite n) ∧ Plan.ofJson? plan.toJson = some plan ∧
    (∀ n ∈ southStop.numbers, Scalar.isFinite n) ∧
    Stop.ofJson? (.obj [("coord", southStop.point.toJson), ("link", southStop.link.toJson),
      ("id", southStop.id.toJson)]) = some southStop := by
  intro plan
  obtain ⟨-, hStop, -, -, -, -, hTrip, hPlan, -, -, -, -, hScenario⟩ :=
    format_readsBack (α := Float)
  have hScenarioFinite : ∀ n ∈ streetScenario.numbers, Scalar.isFinite n := by decide +kernel
  have hTripFinite : ∀ n ∈ southboundTrip.numbers, Scalar.isFinite n := by decide +kernel
  have hPlanFinite : ∀ n ∈ plan.numbers, Scalar.isFinite n := by decide +kernel
  have hStopFinite : ∀ n ∈ southStop.numbers, Scalar.isFinite n := by decide +kernel
  have hReversed : Rearranged southStop.toJson (.obj [("coord", southStop.point.toJson),
      ("link", southStop.link.toJson), ("id", southStop.id.toJson)]) :=
    .obj (.same _) (List.reverse_perm _).symm
  exact ⟨hScenarioFinite, hScenario _ hScenarioFinite _ (.same _), hTripFinite,
    hTrip _ hTripFinite _ (.same _), hPlanFinite, hPlan _ hPlanFinite _ (.same _), hStopFinite,
    hStop _ hStopFinite _ hReversed⟩

end DemandRide
