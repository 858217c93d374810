import DemandRide.Proofs.Service.History
import DemandRide.Proofs.Walk.Teleport

/-! Two runs compared. What a router comes to, failures included, is computed from the answers of
its collaborators without a session, and so two runs are compared on these answers. A teleported
walk and a path at free speed are the same at any time, but for when the legs depart. -/
namespace DemandRide

variable {σ ε α β β' γ γ' : Type}

/-- Both fail, and with the same failure, or both answer, and with related answers. -/
inductive Alike (related : β → γ → Prop) : Except ε β → Except ε γ → Prop where
  | error (e : ε) : Alike related (.error e) (.error e)
  | ok {b : β} {c : γ} (h : related b c) : Alike related (.ok b) (.ok c)

namespace Alike

variable {ε' : Type} {related : β → γ → Prop} {relatedAfter : β' → γ' → Prop}
  {first : Except ε β} {second : Except ε γ}

theorem same (result : Except ε β) : Alike Eq result result := by
  cases result with
  | error e => exact .error e
  | ok b => exact .ok rfl

theorem mapError (h : Alike related first second) (restate : ε → ε') :
    Alike related (first.mapError restate) (second.mapError restate) := by
  cases h with
  | error e => exact .error (restate e)
  | ok h => exact .ok h

theorem map {f : β → β'} {g : γ → γ'} (h : Alike related first second)
    (hMap : ∀ b c, related b c → relatedAfter (f b) (g c)) :
    Alike relatedAfter (first.map f) (second.map g) := by
  cases h with
  | error e => exact .error e
  | ok h => exact .ok (hMap _ _ h)

/-- Where the first parts are alike, only what is done with related answers has to be compared. -/
theorem bind {next : β → Except ε β'} {nextSecond : γ → Except ε γ'}
    (h : Alike related first second)
    (hNext : ∀ b c, related b c → Alike relatedAfter (next b) (nextSecond c)) :
    Alike relatedAfter (first >>= next) (second >>= nextSecond) := by
  cases h with
  | error e => exact .error e
  | ok h => exact hNext _ _ h

theorem imp {weaker : β → γ → Prop} (h : Alike related first second)
    (hImp : ∀ b c, related b c → weaker b c) : Alike weaker first second := by
  cases h with
  | error e => exact .error e
  | ok h => exact .ok (hImp _ _ h)

/-- What is related has been answered. -/
theorem answers (h : Alike related first second) :
    Alike (fun b c => related b c ∧ first = .ok b ∧ second = .ok c) first second := by
  cases h with
  | error e => exact .error e
  | ok h => exact .ok ⟨h, rfl, rfl⟩

/-- Where related answers are told from each other, so are the results. -/
theorem eq_map {f : β → γ} (h : Alike related first second)
    (hEq : ∀ b c, related b c → c = f b) : second = first.map f := by
  cases h with
  | error e => rfl
  | ok h => exact congrArg Except.ok (hEq _ _ h)

theorem of_ok (h : Alike related first second) {b : β} {c : γ} (hFirst : first = .ok b)
    (hSecond : second = .ok c) : related b c := by
  cases h with
  | error e => cases hFirst
  | ok h =>
      cases hFirst
      cases hSecond
      exact h

end Alike

/-- The same element, if it is a leg perhaps with another departure. -/
inductive Element.Redated : Element α → Element α → Prop where
  | activity (activity : Activity α) : Redated (.activity activity) (.activity activity)
  | leg (leg : Leg α) (time : α) : Redated (.leg leg) (.leg { leg with departureTime := time })

/-- Whenever it is begun, a walk fails alike or consists of the same elements. -/
def Walker.Timeless (walker : Walker α) : Prop :=
  ∀ origin destination time other traveller,
    Alike (List.Forall₂ Element.Redated) (walker.walk origin destination time traveller)
      (walker.walk origin destination other traveller)

namespace Teleport

variable [Plane α]

theorem redated_leg (settings : WalkSettings α) (mode : String) (startLink endLink : LinkId)
    (start goal : Point α) (time other : α) :
    Element.Redated (.leg (leg settings mode startLink endLink start goal time))
      (.leg (leg settings mode startLink endLink start goal other)) :=
  .leg _ other

theorem redated_access (settings : WalkSettings α) (link : LinkId) (place linkPoint : Point α)
    (time other : α) :
    List.Forall₂ Element.Redated (access settings link place linkPoint time)
      (access settings link place linkPoint other) := by
  unfold access
  split
  · exact .nil
  · exact .cons (redated_leg ..) (.cons (.activity _) .nil)

theorem redated_egress (settings : WalkSettings α) (link : LinkId) (place linkPoint : Point α)
    (time other : α) :
    List.Forall₂ Element.Redated (egress settings link place linkPoint time)
      (egress settings link place linkPoint other) := by
  unfold egress
  split
  · exact .nil
  · exact .cons (.activity _) (.cons (redated_leg ..) .nil)

/-- What a walk looks up does not depend on the time, and no more does what is made of it. -/
theorem timeless_walker (network : Network α) (settings : WalkSettings α) :
    (walker network settings).Timeless := by
  intro origin destination time other traveller
  change Alike _ (route network settings origin destination time)
    (route network settings origin destination other)
  unfold route
  refine (Alike.same _).bind ?_
  rintro start _ rfl
  refine (Alike.same _).bind ?_
  rintro goal _ rfl
  split
  · refine (Alike.same _).bind ?_
    rintro startPoint _ rfl
    refine (Alike.same _).bind ?_
    rintro goalPoint _ rfl
    exact .ok (List.rel_append (redated_access ..)
      (.cons (redated_leg ..) (redated_egress ..)))
  · exact .ok (.cons (redated_leg ..) .nil)

end Teleport

variable [Scalar α]

namespace Pathfinder

theorem result_answer (network : Network α) (query : PathQuery α) (time : α)
    (origin destination : Link α) (s : Search α) :
    ((answer network { query with departureTime := time } origin destination).run s).result =
      ((answer network query origin destination).run s).result := by
  simp only [answer, Session.result_bind, Session.run_get, Session.ok_bind]
  cases (Search.between network s origin.target destination.source).1 <;> rfl

/-- The time of a query is noticed and not used. -/
theorem result_freeSpeed (network : Network α) (query : PathQuery α) (time : α)
    (s t : Search α) :
    (((freeSpeed network).find { query with departureTime := time }).run t).result =
      (((freeSpeed network).find query).run s).result := by
  rw [(historyFree_freeSpeed network query s t).1]
  simp only [freeSpeed, Session.result_bind]
  refine bind_congr fun first => bind_congr fun last => ?_
  split
  · rfl
  · exact result_answer ..

end Pathfinder

theorem Ride.result_build (settings : ServiceSettings α) (finder : Pathfinder σ α)
    (query : PathQuery α) (s : σ) :
    ((build settings finder query).run s).result =
      (((finder.find query).run s).result.map (leg settings query)).mapError .path := by
  rw [build, Session.result_bind, Session.run_mapError]
  cases ((finder.find query).run s).result <;> rfl

namespace DoorToDoor

/-- The course that is taken from door to door, or why none is, for a walker and answers to path
queries. -/
def course (settings : ServiceSettings α) (walker : Walker α)
    (path? : PathQuery α → Except PathError (DirectPath α)) (request : TripRequest α) :
    Except (RoutingError α) (Course α) := do
  request.validate.mapError .invalidRequest
  if request.origin.link = request.destination.link then
    let walk ← (walker.walk request.origin request.destination request.departureTime
      request.traveller).mapError .network
    return .collapsed walk
  else
    let access ← (access? settings walker request).mapError .network
    let asked := query settings request access
    let path ← (path? asked).mapError .path
    let ride := Ride.leg settings asked path
    let egress ← (egress? settings walker request
      (Element.advance asked.departureTime (.leg ride))).mapError .network
    return .ridden access ride egress

/-- A router from door to door comes to the trip of its course, or fails for want of one. -/
theorem result_route (settings : ServiceSettings α) (walker : Walker α) (finder : Pathfinder σ α)
    (request : TripRequest α) (s : σ) :
    ((route settings walker finder request).run s).result =
      (course settings walker (fun query => ((finder.find query).run s).result) request).map
        (Course.trip settings request) := by
  unfold route course
  rw [Session.result_bind, Session.run_mapError, Session.run_ofExcept]
  cases request.validate with
  | error fault => rfl
  | ok valid =>
      by_cases hLink : request.origin.link = request.destination.link
      · simp only [hLink, if_true, Fallback.run_collapsed]
        cases walker.walk request.origin request.destination request.departureTime
          request.traveller <;> rfl
      · simp only [hLink, if_false, ride, Session.result_bind, run_beforeRide]
        cases access? settings walker request with
        | error e => rfl
        | ok access =>
            have hRide := Ride.result_build settings finder (query settings request access) s
            simp only [query, Session.mapError_ok, Except.map, Session.ok_bind,
              run_afterRide] at hRide ⊢
            rw [hRide]
            cases ((finder.find ⟨request.origin.link, request.destination.link,
              Element.advanceOver request.departureTime (Course.boarding settings access)⟩).run
                s).result with
            | error e => rfl
            | ok path =>
                simp only [Session.mapError_ok, Session.ok_bind]
                cases egress? settings walker request _ <;> rfl

end DoorToDoor

namespace ViaStops

/-- The course that is taken by way of stops, or why none is, for a walker, a choice of stops and
answers to path queries. -/
def course (settings : ServiceSettings α) (walker : Walker α) (stops : StopFinder α)
    (path? : PathQuery α → Except PathError (DirectPath α)) (request : TripRequest α) :
    Except (RoutingError α) (Course α) := do
  request.validate.mapError .invalidRequest
  let pair ← ((stops.find request.origin request.destination).run ()).result
  match choose pair with
  | .walk _ =>
    let walk ← (walker.walk request.origin request.destination request.departureTime
      request.traveller).mapError .network
    return .walked walk
  | .ride access egress =>
    let toStop ← (walker.walk request.origin access.location request.departureTime
      request.traveller).mapError .network
    let asked : PathQuery α := ⟨access.link, egress.link, request.departureTime⟩
    let path ← (path? asked).mapError .path
    let ride := Ride.leg settings asked path
    let fromStop ← (walker.walk egress.location request.destination
      (Element.advanceOver request.departureTime
        (toStop ++ [Course.stage settings access.location, .leg ride,
          Course.stage settings egress.location])) request.traveller).mapError .network
    return .ridden (some ⟨toStop, access.location⟩) ride (some ⟨fromStop, egress.location⟩)

/-- A router by way of stops comes to the trip of its course, or fails for want of one. -/
theorem result_route (settings : ServiceSettings α) (walker : Walker α) (stops : StopFinder α)
    (finder : Pathfinder σ α) (request : TripRequest α) (s : σ) :
    ((route settings walker stops finder request).run s).result =
      (course settings walker stops (fun query => ((finder.find query).run s).result)
        request).map (Course.trip settings request) := by
  unfold route course
  rw [Session.result_bind, Session.run_mapError, Session.run_ofExcept]
  cases request.validate with
  | error fault => rfl
  | ok valid =>
      simp only [Session.result_bind, Session.run_stateless]
      cases ((stops.find request.origin request.destination).run ()).result with
      | error e => rfl
      | ok pair =>
          simp only [Session.mapError_ok, Session.ok_bind]
          cases choose pair with
          | walk reason =>
              simp only [Fallback.run_retagged]
              cases walker.walk request.origin request.destination request.departureTime
                request.traveller <;> rfl
          | ride access egress =>
              simp only [ride, Session.result_bind, Fallback.run_walk]
              cases walker.walk request.origin access.location request.departureTime
                request.traveller with
              | error e => rfl
              | ok toStop =>
                  simp only [Session.mapError_ok, Session.ok_bind, Ride.result_build]
                  cases ((finder.find ⟨access.link, egress.link, request.departureTime⟩).run
                    s).result with
                  | error e => rfl
                  | ok path =>
                      simp only [Except.map, Session.mapError_ok, Session.ok_bind, Course.stage]
                      cases walker.walk egress.location request.destination _
                        request.traveller with
                      | error e => rfl
                      | ok fromStop =>
                          refine congrArg Except.ok ?_
                          simp [Course.trip, Course.boarding, Course.alighting, Course.stage]

end ViaStops

namespace Service

/-- The course of a trip under the scheme of a service. -/
def course (service : Service α) (path? : PathQuery α → Except PathError (DirectPath α))
    (request : TripRequest α) : Except (RoutingError α) (Course α) :=
  match service.boarding with
  | .anyLink => DoorToDoor.course service.settings service.walker path? request
  | .atStops stops => ViaStops.course service.settings service.walker stops path? request

theorem result_route (service : Service α) (finder : Pathfinder σ α) (request : TripRequest α)
    (s : σ) :
    ((service.route finder request).run s).result =
      (service.course (fun query => ((finder.find query).run s).result) request).map
        (Course.trip service.settings request) := by
  unfold route course
  cases service.boarding with
  | anyLink => exact DoorToDoor.result_route ..
  | atStops stops => exact ViaStops.result_route ..

end Service

end DemandRide
