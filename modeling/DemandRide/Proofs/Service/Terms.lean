import DemandRide.Proofs.Service.Postponement
import DemandRide.Proofs.Service.Rides

/-! Services on other terms. What a service promises for rides bounds how long they take and how
long they are waited for, and through the time they take it moves the clock of what follows. It
has no part in which stops are chosen, which paths are found and what is walked. -/
namespace DemandRide

variable {σ α : Type}

theorem OnFoot.activity_cons {activity : Activity α} {elements : List (Element α)}
    (h : OnFoot elements) : OnFoot (.activity activity :: elements) := by
  intro leg hLeg
  rcases List.mem_cons.mp hLeg with hFirst | hRest
  · cases hFirst
  · exact h leg hRest

/-- The same settings with another bound on rides and on the wait for them. -/
def ServiceSettings.withTerms (settings : ServiceSettings α) (alpha beta maxWaitTime : α) :
    ServiceSettings α :=
  { settings with alpha := alpha, beta := beta, maxWaitTime := maxWaitTime }

/-- The same trip on other terms. What is walked is the same; around a ride everything is the same
except how long it takes at most, how long it is waited for and when what follows it departs. -/
inductive Trip.OnOtherTerms : Trip α → Trip α → Prop where
  | walked {elements : List (Element α)} (hWalk : OnFoot elements) :
      OnOtherTerms ⟨elements⟩ ⟨elements⟩
  | ridden {before after later : List (Element α)} {ride : Leg α} {terms : RideTerms α}
      (bound maxWaitTime : α) (hBefore : OnFoot before) (hRide : ride.ride = some terms)
      (hAfter : OnFoot after) (hLater : List.Forall₂ Element.Redated after later) :
      OnOtherTerms ⟨before ++ .leg ride :: after⟩
        ⟨before ++ .leg { ride with
          travelTime := bound
          ride := some { terms with maxTravelTime := bound, maxWaitTime := maxWaitTime } } ::
            later⟩

variable [Scalar α]

/-- The same element, if it is a leg one that departs no later and takes no longer. -/
inductive Element.NoLater : Element α → Element α → Prop where
  | activity (activity : Activity α) : NoLater (.activity activity) (.activity activity)
  | leg {leg other : Leg α} (hDeparture : NotAfter leg.departureTime other.departureTime)
      (hTravel : NotAfter leg.travelTime other.travelTime) : NoLater (.leg leg) (.leg other)

/-- No element of the one trip is later than in the other, and no reading of its clock. -/
structure Trip.NoLater (trip other : Trip α) : Prop where
  elements : List.Forall₂ Element.NoLater trip.elements other.elements
  timeline (start : α) : List.Forall₂ NotAfter (trip.timeline start) (other.timeline start)

/-- The same elements on foot, keeping one time and another. -/
structure SameWalk (time other : α) (walk later : List (Element α)) : Prop where
  same : List.Forall₂ Element.Redated walk later
  onFoot : OnFoot walk
  punctual : Punctual time walk
  laterPunctual : Punctual other later

/-- Whenever it is begun, a walk fails alike or is the same walk. -/
def Walker.SameAnyTime (walker : Walker α) : Prop :=
  ∀ origin destination time other traveller,
    Alike (SameWalk time other) (walker.walk origin destination time traveller)
      (walker.walk origin destination other traveller)

theorem Teleport.sameAnyTime_walker {α : Type} [Plane α] (network : Network α)
    (settings : WalkSettings α) : (walker network settings).SameAnyTime := by
  intro origin destination time other traveller
  refine (timeless_walker network settings _ _ time other traveller).answers.imp ?_
  rintro walk later ⟨hSame, hWalk, hLater⟩
  exact ⟨hSame, onFoot_walker network settings _ _ _ _ _ hWalk,
    keepsTime_walker network settings _ _ _ _ _ hWalk,
    keepsTime_walker network settings _ _ _ _ _ hLater⟩

theorem SameWalk.nil (time other : α) : SameWalk time other [] [] :=
  ⟨.nil, nofun, punctual_nil time, punctual_nil other⟩

/-- What begins with a stage keeps time if what follows the stage does. -/
theorem SameWalk.stage_cons {time other : α} {walk later : List (Element α)}
    (settings : ServiceSettings α) (place : Location α)
    (h : SameWalk (Element.advance time (Course.stage settings place))
      (Element.advance other (Course.stage settings place)) walk later) :
    SameWalk time other (Course.stage settings place :: walk)
      (Course.stage settings place :: later) where
  same := .cons (.activity _) h.same
  onFoot := h.onFoot.activity_cons
  punctual := (punctual_cons _ _ _).mpr ⟨punctual_singleton_activity _ _, h.punctual⟩
  laterPunctual := (punctual_cons _ _ _).mpr ⟨punctual_singleton_activity _ _, h.laterPunctual⟩

/-- Where a walk is wanted at the end of a ride, it is the same walk under either clock. -/
theorem SameWalk.ask {time other : α} (settings : ServiceSettings α) (wanted : Bool)
    (place : Location α) {answer otherAnswer : Except NetworkError (List (Element α))}
    (h : Alike (SameWalk (Element.advance time (Course.stage settings place))
      (Element.advance other (Course.stage settings place))) answer otherAnswer) :
    Alike
      (fun egress later =>
        SameWalk time other (Course.alighting settings egress) (Course.alighting settings later))
      (Transfer.ask wanted place answer) (Transfer.ask wanted place otherAnswer) := by
  cases wanted with
  | false => exact .ok (.nil time other)
  | true => exact h.map fun walk later hWalk => hWalk.stage_cons settings place

theorem Walker.SameAnyTime.onFoot {walker : Walker α} (h : walker.SameAnyTime) :
    walker.OnFoot := by
  intro origin destination time traveller walk hWalk
  exact ((h origin destination time time traveller).of_ok hWalk hWalk).onFoot

theorem Course.onFoot_boarding {settings : ServiceSettings α} {access : Option (Transfer α)}
    (h : ∀ transfer ∈ access, OnFoot transfer.walk) : OnFoot (boarding settings access) := by
  cases access with
  | none => exact nofun
  | some transfer =>
      intro leg hLeg
      rcases List.mem_append.mp hLeg with hWalk | hStage
      · exact h transfer rfl leg hWalk
      · cases List.mem_singleton.mp hStage

/-- The same course on other terms, with the answer its ride follows and the times that what
comes after the ride keeps. -/
inductive Course.OnOtherTerms (settings other : ServiceSettings α)
    (path? : PathQuery α → Except PathError (DirectPath α)) (start : α) :
    Course α → Course α → Prop where
  | collapsed (walk : List (Element α)) :
      OnOtherTerms settings other path? start (.collapsed walk) (.collapsed walk)
  | walked {walk : List (Element α)} (hWalk : OnFoot walk) :
      OnOtherTerms settings other path? start (.walked walk) (.walked walk)
  | ridden {access egress later : Option (Transfer α)} {query : PathQuery α}
      {path : DirectPath α} (hAccess : ∀ transfer ∈ access, OnFoot transfer.walk)
      (hPath : path? query = .ok path)
      (hEgress : SameWalk
        (Element.advance (Element.advanceOver start (boarding settings access))
          (.leg (Ride.leg settings query path)))
        (Element.advance (Element.advanceOver start (boarding settings access))
          (.leg (Ride.leg other query path)))
        (alighting settings egress) (alighting settings later)) :
      OnOtherTerms settings other path? start
        (.ridden access (Ride.leg settings query path) egress)
        (.ridden access (Ride.leg other query path) later)

section Courses

variable {settings : ServiceSettings α} {alpha beta maxWaitTime : α} {walker : Walker α}
  {path? : PathQuery α → Except PathError (DirectPath α)} {request : TripRequest α}

/-- The terms are used once there is a path, and then only the walk from the ride is begun at
another time. -/
theorem DoorToDoor.course_withTerms (hWalker : walker.SameAnyTime) :
    Alike (Course.OnOtherTerms settings (settings.withTerms alpha beta maxWaitTime) path?
      request.departureTime)
      (course settings walker path? request)
      (course (settings.withTerms alpha beta maxWaitTime) walker path? request) := by
  have hEgress (time other : α) : Alike
      (fun egress later => SameWalk time other (Course.alighting settings egress)
        (Course.alighting settings later))
      (egress? settings walker request time)
      (egress? (settings.withTerms alpha beta maxWaitTime) walker request other) :=
    SameWalk.ask settings settings.walksToRide _ (hWalker ..)
  unfold course
  refine (Alike.same _).bind ?_
  rintro valid _ rfl
  split
  · refine ((Alike.same _).mapError _).bind ?_
    rintro walk _ rfl
    exact .ok (.collapsed walk)
  · refine ((Alike.same (access? settings walker request)).answers.mapError _).bind ?_
    rintro access _ ⟨rfl, hAccess, -⟩
    refine ((Alike.same (path? (query settings request access))).answers.mapError _).bind ?_
    rintro path _ ⟨rfl, hPath, -⟩
    refine ((hEgress _ _).mapError _).bind ?_
    intro egress later hLater
    refine .ok (.ridden (fun transfer hTransfer => ?_) hPath hLater)
    exact hWalker.onFoot _ _ _ _ _ (Transfer.of_ask hAccess transfer hTransfer).2

/-- The stops are chosen and the path is found before the terms are used. -/
theorem ViaStops.course_withTerms {stops : StopFinder α} (hWalker : walker.SameAnyTime) :
    Alike (Course.OnOtherTerms settings (settings.withTerms alpha beta maxWaitTime) path?
      request.departureTime)
      (course settings walker stops path? request)
      (course (settings.withTerms alpha beta maxWaitTime) walker stops path? request) := by
  unfold course
  refine (Alike.same _).bind ?_
  rintro valid _ rfl
  refine (Alike.same _).bind ?_
  rintro pair _ rfl
  cases choose pair with
  | walk reason =>
      refine ((Alike.same (walker.walk request.origin request.destination request.departureTime
        request.traveller)).answers.mapError _).bind ?_
      rintro walk _ ⟨rfl, hWalk, -⟩
      exact .ok (.walked (hWalker.onFoot _ _ _ _ _ hWalk))
  | ride access egress =>
      refine ((Alike.same (walker.walk request.origin access.location request.departureTime
        request.traveller)).answers.mapError _).bind ?_
      rintro toStop _ ⟨rfl, hToStop, -⟩
      refine ((Alike.same (path? ⟨access.link, egress.link,
        request.departureTime⟩)).answers.mapError _).bind ?_
      rintro path _ ⟨rfl, hPath, -⟩
      refine ((hWalker egress.location request.destination _ _
        request.traveller).mapError _).bind ?_
      intro fromStop later hLater
      refine .ok (.ridden ?_ hPath ?_)
      · rintro _ ⟨⟩
        exact hWalker.onFoot _ _ _ _ _ hToStop
      · rw [Element.advanceOver_append, Element.advanceOver_append] at hLater
        rw [Course.boarding, Element.advanceOver_append]
        exact hLater.stage_cons settings egress.location

theorem Service.course_withTerms {boarding : Boarding α} (hWalker : walker.SameAnyTime) :
    Alike (Course.OnOtherTerms settings (settings.withTerms alpha beta maxWaitTime) path?
      request.departureTime)
      (course ⟨settings, walker, boarding⟩ path? request)
      (course ⟨settings.withTerms alpha beta maxWaitTime, walker, boarding⟩ path? request) := by
  cases boarding with
  | anyLink => exact DoorToDoor.course_withTerms hWalker
  | atStops stops => exact ViaStops.course_withTerms hWalker

/-- The trip of a course on other terms is on other terms, and tells the same of everything else. -/
theorem Course.OnOtherTerms.trip {start : α} {course other : Course α}
    (h : Course.OnOtherTerms settings (settings.withTerms alpha beta maxWaitTime) path? start
      course other) :
    Trip.OnOtherTerms (course.trip settings request)
      (other.trip (settings.withTerms alpha beta maxWaitTime) request) := by
  cases h with
  | collapsed walk =>
      refine .walked fun leg hLeg => ?_
      cases List.mem_singleton.mp hLeg
      rfl
  | walked hWalk => exact .walked (Fallback.onFoot_retag settings hWalk)
  | @ridden access egress later query path hAccess _ hEgress =>
      have hRide : (Ride.leg settings query path).ride = some (Ride.terms settings path) := rfl
      exact .ridden _ _ (onFoot_boarding hAccess) hRide hEgress.onFoot hEgress.same

end Courses

section Exact

variable [ExactScalar α]

namespace NotAfter

/-- In exact arithmetic everything is a number, so only its size has to be told. -/
theorem of_not_lt {a b : α} (h : Scalar.lt b a = false) : NotAfter a b := by
  refine ⟨h, fun hNaN => ?_⟩
  cases (OrderedScalar.isNaN_of_isFinite (ExactScalar.isFinite a)).symm.trans hNaN

theorem add_add {a b c d : α} (hab : NotAfter a b) (hcd : NotAfter c d) :
    NotAfter (a + c) (b + d) := by
  have hFirst : NotAfter (a + c) (b + c) := of_not_lt (ExactScalar.not_add_lt_add c hab.1)
  have hSecond : NotAfter (b + c) (b + d) := by
    rw [ExactScalar.add_comm b, ExactScalar.add_comm b]
    exact of_not_lt (ExactScalar.not_add_lt_add b hcd.1)
  exact hFirst.trans hSecond

end NotAfter

/-- On terms that promise no less a ride takes no less. -/
theorem ServiceSettings.notAfter_maxTravelTime {settings : ServiceSettings α}
    {alpha beta maxWaitTime time : α} (hAlpha : NotAfter settings.alpha alpha)
    (hBeta : NotAfter settings.beta beta) (hTime : Scalar.lt time 0 = false) :
    NotAfter (settings.maxTravelTime time)
      ((settings.withTerms alpha beta maxWaitTime).maxTravelTime time) :=
  NotAfter.add_add (.of_not_lt (ExactScalar.not_mul_lt_mul hAlpha.1 hTime)) hBeta

namespace Element

theorem NoLater.refl (element : Element α) : NoLater element element := by
  cases element with
  | activity activity => exact .activity activity
  | leg leg => exact .leg (.refl _) (.refl _)

/-- A clock that is no later is moved on to no later by what takes no longer. -/
theorem NoLater.advance {time other : α} {element later : Element α} (hTime : NotAfter time other)
    (h : NoLater element later) : NotAfter (advance time element) (advance other later) := by
  cases h with
  | activity activity => exact hTime.add_add (.refl _)
  | leg _ hTravel => exact hTime.add_add hTravel

theorem NoLater.readings {time other : α} {elements later : List (Element α)}
    (hTime : NotAfter time other) (h : List.Forall₂ NoLater elements later) :
    List.Forall₂ NotAfter (readings time elements) (readings other later) := by
  induction h generalizing time other with
  | nil => exact .cons hTime .nil
  | cons hFirst _ ih => exact .cons hTime (ih (hFirst.advance hTime))

end Element

/-- Of the same elements, those that keep the time of an earlier clock are no later. -/
theorem SameWalk.noLater {time other : α} {walk later : List (Element α)}
    (h : SameWalk time other walk later) (hTime : NotAfter time other) :
    List.Forall₂ Element.NoLater walk later := by
  obtain ⟨hSame, -, hPunctual, hLater⟩ := h
  -- What is carried from element to element is that the one clock is not after the other.
  induction hSame generalizing time other with
  | nil => exact .nil
  | @cons element second _ _ hFirst _ ih =>
      obtain ⟨hElement, hRest⟩ := (punctual_cons _ _ _).mp hPunctual
      obtain ⟨hOther, hOtherRest⟩ := (punctual_cons _ _ _).mp hLater
      have hNoLater : element.NoLater second := by
        cases hFirst with
        | activity activity => exact .activity activity
        | leg leg departure =>
            obtain rfl := (punctual_singleton_leg _ _).mp hElement
            obtain rfl := (punctual_singleton_leg _ _).mp hOther
            exact .leg hTime (.refl _)
      exact .cons hNoLater (ih (hNoLater.advance hTime) hRest hOtherRest)

/-- On terms that promise no less no part of a course is earlier. -/
theorem Course.OnOtherTerms.noLater {settings : ServiceSettings α}
    {alpha beta maxWaitTime start : α} {path? : PathQuery α → Except PathError (DirectPath α)}
    {course other : Course α} (request : TripRequest α)
    (hAlpha : NotAfter settings.alpha alpha) (hBeta : NotAfter settings.beta beta)
    (hPaths : ∀ query path, path? query = .ok path → Scalar.lt path.travelTime 0 = false)
    (h : Course.OnOtherTerms settings (settings.withTerms alpha beta maxWaitTime) path? start
      course other) :
    List.Forall₂ Element.NoLater (course.trip settings request).elements
      (other.trip (settings.withTerms alpha beta maxWaitTime) request).elements := by
  have hSame (elements : List (Element α)) : List.Forall₂ Element.NoLater elements elements :=
    List.forall₂_same.mpr fun element _ => .refl element
  cases h with
  | collapsed walk => exact hSame _
  | walked hWalk => exact hSame _
  | @ridden access egress later query path hAccess hPath hEgress =>
      have hRide : Element.NoLater (.leg (Ride.leg settings query path))
          (.leg (Ride.leg (settings.withTerms alpha beta maxWaitTime) query path)) :=
        .leg (.refl _)
          (ServiceSettings.notAfter_maxTravelTime hAlpha hBeta (hPaths query path hPath))
      have hAfter := hEgress.noLater (hRide.advance (.refl _))
      exact List.rel_append (hSame _) (.cons hRide hAfter)

end Exact

/-- Of two services that promise differently long rides and waits, both fail a request alike or
both answer it with the same trip on other terms. In exact arithmetic, where the one promises no
longer rides than the other, nothing in its trips is later. -/
theorem Service.route_withTerms {α : Type} [Plane α] (network : Network α) (walk : WalkSettings α)
    (settings : ServiceSettings α) (alpha beta maxWaitTime : α) (boarding : Boarding α)
    (request : TripRequest α) (s t : Search α) :
    let answer (settings : ServiceSettings α) (used : Search α) :=
      ((route ⟨settings, Teleport.walker network walk, boarding⟩ (.freeSpeed network)
        request).run used).result
    let other := settings.withTerms alpha beta maxWaitTime
    Alike Trip.OnOtherTerms (answer settings s) (answer other t) ∧
      ∀ [ExactScalar α], network.Built → NotAfter settings.alpha other.alpha →
        NotAfter settings.beta other.beta →
        Alike Trip.NoLater (answer settings s) (answer other t) := by
  intro answer other
  -- Whatever either search has found before, it answers the same queries the same.
  let path? (query : PathQuery α) := (((Pathfinder.freeSpeed network).find query).run s).result
  have hPath? : (fun query => (((Pathfinder.freeSpeed network).find query).run t).result) = path? :=
    funext fun query => Pathfinder.result_freeSpeed network query query.departureTime s t
  have hCourses : Alike (Course.OnOtherTerms settings other path? request.departureTime)
      (course ⟨settings, Teleport.walker network walk, boarding⟩ path? request)
      (course ⟨other, Teleport.walker network walk, boarding⟩ path? request) :=
    course_withTerms (Teleport.sameAnyTime_walker network walk)
  simp only [answer, result_route, hPath?]
  refine ⟨hCourses.map fun course later h => h.trip, fun built hAlpha hBeta => ?_⟩
  have hPaths (query : PathQuery α) (path : DirectPath α) (hPath : path? query = .ok path) :
      Scalar.lt path.travelTime 0 = false :=
    Pathfinder.not_travelTime_lt_zero built hPath
  refine hCourses.map fun course later h => ?_
  have hNoLater := h.noLater request hAlpha hBeta hPaths
  exact ⟨hNoLater, fun start => Element.NoLater.readings (.refl start) hNoLater⟩

open Network in
theorem built_exactStreets : exactStreets.Built := by
  have hMeasured (id : LinkId) (source target : NodeId) :
      Measured (exactStreet id source target) :=
    ⟨Bool.or_eq_false_iff.mpr ⟨Exact.not_isNaN _, Exact.not_ofNat_lt_ofNat (Nat.zero_le 10)⟩,
      Bool.or_eq_false_iff.mpr ⟨Exact.not_isNaN _, Exact.not_ofNat_le_ofNat (Nat.zero_lt_succ 4)⟩⟩
  have hNodes := Built.empty
    |>.addNode ((@addNode_eq_ok_iff ℝ _ _ ⟨"1"⟩ (exactCrossing 0)).mpr ⟨rfl, rfl⟩)
    |>.addNode ((@addNode_eq_ok_iff ℝ _ _ ⟨"2"⟩ (exactCrossing 10)).mpr ⟨rfl, rfl⟩)
    |>.addNode ((@addNode_eq_ok_iff ℝ _ _ ⟨"3"⟩ (exactCrossing 20)).mpr ⟨rfl, rfl⟩)
  exact hNodes
    |>.addLink (addLink_eq_ok_iff.mpr ⟨rfl, rfl, rfl, hMeasured ⟨"a"⟩ ⟨"1"⟩ ⟨"2"⟩, rfl⟩)
    |>.addLink (addLink_eq_ok_iff.mpr ⟨rfl, rfl, rfl, hMeasured ⟨"b"⟩ ⟨"2"⟩ ⟨"3"⟩, rfl⟩)

/-- The ride down the streets for a service that promises less. -/
theorem route_withTerms_exactStreets :
    let settings : ServiceSettings ℝ :=
      .ofBound "drt" .doorToDoor (Scalar.ofNat 1) (Scalar.ofNat 60)
    let other := settings.withTerms (Scalar.ofNat 2) (Scalar.ofNat 200) (Scalar.ofNat 900)
    exactStreets.Built ∧ NotAfter settings.alpha other.alpha ∧
      NotAfter settings.beta other.beta ∧
      Trip.OnOtherTerms ⟨[.leg (exactRide settings)]⟩ ⟨[.leg (exactRide other)]⟩ ∧
      Trip.NoLater ⟨[.leg (exactRide settings)]⟩ ⟨[.leg (exactRide other)]⟩ := by
  intro settings other
  have hAlpha : NotAfter settings.alpha other.alpha :=
    .of_not_lt (Exact.not_ofNat_lt_ofNat (Nat.le_succ 1))
  have hBeta : NotAfter settings.beta other.beta :=
    .of_not_lt (Exact.not_ofNat_lt_ofNat (by decide : 60 ≤ 200))
  obtain ⟨hSame, hNoLater⟩ := Service.route_withTerms exactStreets .default settings
    (Scalar.ofNat 2) (Scalar.ofNat 200) (Scalar.ofNat 900) .anyLink exactRequest Search.empty
    Search.empty
  have hFirst := route_exactStreets settings rfl .default Search.empty
  have hSecond := route_exactStreets other rfl .default Search.empty
  exact ⟨built_exactStreets, hAlpha, hBeta, hSame.of_ok hFirst hSecond,
    (hNoLater built_exactStreets hAlpha hBeta).of_ok hFirst hSecond⟩

end DemandRide
