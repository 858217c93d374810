import DemandRide.Plane.Binary64
import DemandRide.Proofs.Service.History
import DemandRide.Proofs.Service.Structure
import DemandRide.Service.Batch
import Mathlib.Data.Set.List

/-! Batches as lists of requests that know nothing of each other. Workers without memory
answer a request as a fresh router does, whatever they have served, so all that is left of a
schedule is which requests were not served because one before them in their share had failed.
If plans are checked, the check finds nothing in the trips of a walker whose walks are well
formed. -/
namespace DemandRide

/-- The answer to a request with its trip. -/
def TripRequest.routed {α : Type} (request : TripRequest α) (trip : Trip α) : RoutedTrip α :=
  ⟨request.traveller, request.departureTime, trip⟩

/-- One worker that serves all requests covers them. -/
theorem Schedule.Covers.sequential (count : Nat) : (Schedule.sequential count).Covers count := by
  simp [Schedule.Covers, Schedule.sequential]

/-- Whether a schedule covers all requests can be computed. -/
instance (schedule : Schedule) (count : Nat) : Decidable (schedule.Covers count) :=
  inferInstanceAs (Decidable (List.Perm _ _))

section Gather

variable {ε β : Type} {count : Nat} {answers : List (Nat × Except ε β)}

theorem filterMap_getElem?_range (answered : List β) :
    (List.range answered.length).filterMap (answered[·]?) = answered := by
  induction answered with
  | nil => rfl
  | cons first rest ih =>
      rw [List.length_cons, List.range_succ_eq_map, List.filterMap_cons, List.filterMap_map]
      exact congrArg (first :: ·) ih

/-- Where all answers are there, they make a list. -/
theorem exists_map_eq_map_ok {γ : Type} {asked : List γ} {answer : γ → Except ε β}
    (h : ∀ c ∈ asked, ∃ b, answer c = .ok b) :
    ∃ answered : List β, asked.map answer = answered.map .ok := by
  induction asked with
  | nil => exact ⟨[], rfl⟩
  | cons c rest ih =>
      obtain ⟨⟨b, hFirst⟩, hRest⟩ := List.forall_mem_cons.mp h
      obtain ⟨answered, hAnswered⟩ := ih hRest
      exact ⟨b :: answered, by rw [List.map_cons, hFirst, hAnswered, List.map_cons]⟩

/-- A failure that is gathered is the answer to one of the requests. -/
theorem exists_of_gather_eq_error {e : ε} (h : gather count answers = .error e) :
    ∃ index < count, answers.lookup index = some (.error e) := by
  unfold gather at h
  dsimp only at h
  split at h
  · rename_i hFound
    cases h
    obtain ⟨index, hIndex, hFailure⟩ := List.exists_of_findSome?_eq_some hFound
    split at hFailure <;> cases hFailure
    exact ⟨index, List.mem_range.mp hIndex, ‹_›⟩
  · cases h

/-- No failure is among the answers if all of them are gathered. -/
theorem lookup_ne_of_gather_eq_ok {answered : List β} (h : gather count answers = .ok answered)
    {index : Nat} (hIndex : index < count) (e : ε) : answers.lookup index ≠ some (.error e) := by
  intro hFailure
  unfold gather at h
  dsimp only at h
  split at h
  · cases h
  · rename_i hNone
    have hAt := List.findSome?_eq_none_iff.mp hNone index (List.mem_range.mpr hIndex)
    rw [hFailure] at hAt
    cases hAt

/-- A failure among the answers is gathered if there is no other. -/
theorem gather_eq_error {index : Nat} {e : ε} (hIndex : index < count)
    (hFailure : answers.lookup index = some (.error e))
    (hOnly : ∀ other cause, answers.lookup other = some (.error cause) → cause = e) :
    gather count answers = .error e := by
  cases hGather : gather count answers with
  | error cause =>
      obtain ⟨other, -, hOther⟩ := exists_of_gather_eq_error hGather
      rw [hOnly other cause hOther]
  | ok answered => exact absurd hFailure (lookup_ne_of_gather_eq_ok hGather hIndex e)

/-- If every answer is there and none is a failure, all of them are gathered. -/
theorem gather_eq_ok {answered : List β} (hCount : answered.length = count)
    (hAnswers : ∀ index b, answered[index]? = some b → answers.lookup index = some (.ok b)) :
    gather count answers = .ok answered := by
  subst hCount
  have hLookup (index : Nat) (hIndex : index < answered.length) :
      answers.lookup index = some (.ok answered[index]) :=
    hAnswers _ _ (List.getElem?_eq_getElem hIndex)
  cases hGather : gather answered.length answers with
  | error e =>
      obtain ⟨index, hIndex, hFailure⟩ := exists_of_gather_eq_error hGather
      cases (hLookup index hIndex).symm.trans hFailure
  | ok gathered =>
      unfold gather at hGather
      dsimp only at hGather
      split at hGather
      · cases hGather
      · obtain rfl := Except.ok.inj hGather
        refine congrArg Except.ok (Eq.trans (List.filterMap_congr fun index hMem => ?_)
          (filterMap_getElem?_range answered))
        have hIndex := List.mem_range.mp hMem
        rw [hLookup index hIndex, List.getElem?_eq_getElem hIndex]

end Gather

/-- No two of the requests fail when they are routed by fresh routers. -/
def Service.FailsAtMostOnce {σ α : Type} [Scalar α] (service : Service α)
    (finder : Pathfinder σ α) (fresh : σ) (requests : List (TripRequest α)) : Prop :=
  requests.Pairwise fun request other => ∃ trip,
    ((service.route finder request).run fresh).result = .ok trip ∨
      ((service.route finder other).run fresh).result = .ok trip

namespace Batch

variable {σ α : Type}

/-- The check of a plan that passes does nothing. -/
theorem run_checkPlan (batch : Batch α) (index : Nat) {request : TripRequest α} {trip : Trip α}
    (hCheck : (request.toPlan trip).check = .ok ()) (s : σ) :
    (batch.checkPlan index request trip).run s = ⟨.ok (), s, []⟩ := by
  have hLabel : (PlanLabel.ofTraveller request.traveller).check
      ((request.toPlan trip).elements.map fun element => some element.kind) =
        ((.ok (), []) : Except Violation Unit × List (Notice α)) := by
    unfold PlanLabel.check
    rw [Plan.check] at hCheck
    rw [hCheck]
  unfold checkPlan
  dsimp only
  split
  · rw [hLabel]
    rfl
  · rfl

variable [Scalar α]

/-- What a batch answers to a request that is served by a fresh router. -/
def answer (batch : Batch α) (finder : Pathfinder σ α) (fresh : σ) (index : Nat)
    (request : TripRequest α) : Except (BatchError α) (RoutedTrip α) :=
  (((batch.service.route finder request).run fresh).result.map request.routed).mapError
    (.routing index request.traveller)

/-- What is reported of a request that is served by a fresh router. -/
def reports (batch : Batch α) (finder : Pathfinder σ α) (fresh : σ) (request : TripRequest α) :
    List (TripRequest α × FallbackReason) :=
  ((batch.service.route finder request).run fresh).notices.filterMap Notice.fallback?

/-- What all workers together answer. -/
def answers (batch : Batch α) (finder : Pathfinder σ α) (fresh : σ)
    (requests : List (TripRequest α)) (schedule : Schedule) :
    List (Nat × Except (BatchError α) (RoutedTrip α)) :=
  (schedule.map (batch.serve finder requests fresh)).flatMap Prod.fst

variable {batch : Batch α} {finder : Pathfinder σ α}

/-- A request comes to the same from whatever state the worker has reached. -/
theorem run_routeOne (hWalker : batch.service.walker.WellFormed) (hFinder : finder.HistoryFree)
    (fresh s : σ) (index : Nat) (request : TripRequest α) :
    let reached := (batch.routeOne finder index request).run s
    reached.result = batch.answer finder fresh index request ∧
      reached.notices.filterMap Notice.fallback? = batch.reports finder fresh request := by
  obtain ⟨hResult, hNotices⟩ := batch.service.historyFree_route hFinder request fresh s
  unfold answer reports
  rw [hResult, hNotices]
  simp only [routeOne, Session.run_bind, Session.run_mapError]
  cases hTrip : ((batch.service.route finder request).run s).result with
  | error e => exact ⟨rfl, rfl⟩
  | ok trip =>
      have hCheck := batch.run_checkPlan index (Service.check_of_route hWalker hTrip)
        ((batch.service.route finder request).run s).state
      simp only [Session.mapError_ok, hCheck, Session.run_note, Session.run_pure]
      refine ⟨rfl, ?_⟩
      rw [List.filterMap_append]
      exact List.append_nil _

/-- The failures of a batch are those of its routers. -/
theorem answer_eq_error_iff {fresh : σ} {index : Nat} {request : TripRequest α}
    {cause : BatchError α} :
    batch.answer finder fresh index request = .error cause ↔
      ∃ e, ((batch.service.route finder request).run fresh).result = .error e ∧
        cause = .routing index request.traveller e := by
  unfold answer
  cases ((batch.service.route finder request).run fresh).result <;>
    simp [Except.map, eq_comm]

theorem answer_of_ok {fresh : σ} {index : Nat} {request : TripRequest α} {trip : Trip α}
    (hTrip : ((batch.service.route finder request).run fresh).result = .ok trip) :
    batch.answer finder fresh index request = .ok (request.routed trip) := by
  rw [answer, hTrip]
  rfl

section Serve

variable {requests : List (TripRequest α)} (hWalker : batch.service.walker.WellFormed)
  (hFinder : finder.HistoryFree) (fresh s : σ)

include hWalker hFinder

/-- One request of a share: its answer is that of a fresh router, and it ends the share if it
is a failure. -/
theorem serve_cons {index : Nat} {request : TripRequest α} (share : List Nat)
    (hRequest : requests[index]? = some request) :
    ∃ t, (batch.serve finder requests s (index :: share)).1 =
      (index, batch.answer finder fresh index request) ::
        match batch.answer finder fresh index request with
        | .error _ => []
        | .ok _ => (batch.serve finder requests t share).1 := by
  obtain ⟨hResult, -⟩ := run_routeOne hWalker hFinder fresh s index request
  rw [serve, hRequest]
  dsimp only
  cases hAnswer : batch.answer finder fresh index request with
  | error e =>
      rw [hResult, hAnswer]
      exact ⟨s, rfl⟩
  | ok routed =>
      rw [hResult, hAnswer]
      exact ⟨_, rfl⟩

/-- A worker gives no answer that a fresh router would not give. -/
theorem answer_of_mem_serve (share : List Nat) {index : Nat}
    {result : Except (BatchError α) (RoutedTrip α)}
    (hServed : (index, result) ∈ (batch.serve finder requests s share).1) :
    ∃ request, requests[index]? = some request ∧
      result = batch.answer finder fresh index request := by
  induction share generalizing s with
  | nil => cases hServed
  | cons first rest ih =>
      cases hRequest : requests[first]? with
      | none =>
          rw [serve, hRequest] at hServed
          exact ih s hServed
      | some request =>
          obtain ⟨t, hAnswers⟩ := serve_cons hWalker hFinder fresh s rest hRequest
          rw [hAnswers] at hServed
          rcases List.mem_cons.mp hServed with hFirst | hLater
          · cases hFirst
            exact ⟨request, hRequest, rfl⟩
          · split at hLater
            · cases hLater
            · exact ih t hLater

/-- A worker comes to a request of its share unless another request of the share fails. -/
theorem mem_serve (share : List Nat) {index : Nat} {request : TripRequest α}
    (hIndex : index ∈ share) (hRequest : requests[index]? = some request)
    (hOthers : ∀ other ∈ share, other ≠ index → ∀ found, requests[other]? = some found →
      ∃ routed, batch.answer finder fresh other found = .ok routed) :
    (index, batch.answer finder fresh index request) ∈
      (batch.serve finder requests s share).1 := by
  induction share generalizing s with
  | nil => cases hIndex
  | cons first rest ih =>
      by_cases hFirst : first = index
      · subst hFirst
        obtain ⟨t, hAnswers⟩ := serve_cons hWalker hFinder fresh s rest hRequest
        rw [hAnswers]
        exact List.mem_cons_self
      · have hRest : index ∈ rest := (List.mem_cons.mp hIndex).resolve_left (Ne.symm hFirst)
        have hOthers' := fun other hOther => hOthers other (List.mem_cons_of_mem first hOther)
        cases hFound : requests[first]? with
        | none =>
            rw [serve, hFound]
            exact ih s hRest hOthers'
        | some found =>
            obtain ⟨routed, hRouted⟩ := hOthers first List.mem_cons_self hFirst found hFound
            obtain ⟨t, hAnswers⟩ := serve_cons hWalker hFinder fresh s rest hFound
            rw [hAnswers, hRouted]
            exact List.mem_cons_of_mem _ (ih t hRest hOthers')

/-- A share does not hide that one of its requests fails: the worker answers with a failure, if
perhaps with that of another request. -/
theorem exists_error_mem_serve (share : List Nat) {index : Nat} {request : TripRequest α}
    {e : BatchError α} (hIndex : index ∈ share) (hRequest : requests[index]? = some request)
    (hFails : batch.answer finder fresh index request = .error e) :
    ∃ other cause, (other, .error cause) ∈ (batch.serve finder requests s share).1 := by
  induction share generalizing s with
  | nil => cases hIndex
  | cons first rest ih =>
      have hRest (hFirst : first ≠ index) : index ∈ rest :=
        (List.mem_cons.mp hIndex).resolve_left (Ne.symm hFirst)
      cases hFound : requests[first]? with
      | none =>
          rw [serve, hFound]
          refine ih s (hRest ?_)
          rintro rfl
          cases hFound.symm.trans hRequest
      | some found =>
          obtain ⟨t, hAnswers⟩ := serve_cons hWalker hFinder fresh s rest hFound
          rw [hAnswers]
          cases hAnswer : batch.answer finder fresh first found with
          | error cause => exact ⟨first, cause, List.mem_cons_self⟩
          | ok routed =>
              have hFirst : first ≠ index := by
                rintro rfl
                obtain rfl := Option.some.inj (hFound.symm.trans hRequest)
                cases hAnswer.symm.trans hFails
              obtain ⟨other, cause, hMem⟩ := ih t (hRest hFirst)
              exact ⟨other, cause, List.mem_cons_of_mem _ hMem⟩

/-- If no request of a share fails, all of them are reported as fresh routers report them. -/
theorem reports_serve (share : List Nat)
    (hOk : ∀ index ∈ share, ∀ request, requests[index]? = some request →
      ∃ routed, batch.answer finder fresh index request = .ok routed) :
    (batch.serve finder requests s share).2.filterMap Notice.fallback? =
      share.flatMap fun index => requests[index]?.toList.flatMap (batch.reports finder fresh) := by
  induction share generalizing s with
  | nil => rfl
  | cons first rest ih =>
      have hOk' := fun index hIndex => hOk index (List.mem_cons_of_mem first hIndex)
      cases hFound : requests[first]? with
      | none =>
          rw [serve, hFound, List.flatMap_cons, hFound]
          exact ih s hOk'
      | some found =>
          obtain ⟨routed, hRouted⟩ := hOk first List.mem_cons_self found hFound
          obtain ⟨hResult, hReports⟩ := run_routeOne hWalker hFinder fresh s first found
          rw [serve, hFound, List.flatMap_cons, hFound]
          dsimp only
          rw [hResult, hRouted]
          simp only [List.filterMap_append, hReports, ih _ hOk', Option.toList_some,
            List.flatMap_singleton]

end Serve

section Schedule

variable {requests : List (TripRequest α)} (hWalker : batch.service.walker.WellFormed)
  (hFinder : finder.HistoryFree) (fresh : σ)

include hWalker hFinder

/-- What the workers answer to an index is what a fresh router answers. -/
theorem answer_of_lookup_answers (schedule : Schedule) {index : Nat}
    {result : Except (BatchError α) (RoutedTrip α)}
    (hLookup : (batch.answers finder fresh requests schedule).lookup index = some result) :
    ∃ request, requests[index]? = some request ∧
      result = batch.answer finder fresh index request := by
  obtain ⟨before, after, hServed, -⟩ := List.lookup_eq_some_iff.mp hLookup
  have hMem : (index, result) ∈ batch.answers finder fresh requests schedule := by
    rw [hServed]
    exact List.mem_append_right before List.mem_cons_self
  obtain ⟨_, hShare, hMem⟩ := List.mem_flatMap.mp hMem
  obtain ⟨share, -, rfl⟩ := List.mem_map.mp hShare
  exact answer_of_mem_serve hWalker hFinder fresh fresh share hMem

/-- What a worker answers to an index is what all of them together answer to it. -/
theorem lookup_of_mem_serve {schedule : Schedule} {share : List Nat} (hShare : share ∈ schedule)
    {index : Nat} {result : Except (BatchError α) (RoutedTrip α)}
    (hServed : (index, result) ∈ (batch.serve finder requests fresh share).1) :
    (batch.answers finder fresh requests schedule).lookup index = some result := by
  have hSome : ((batch.answers finder fresh requests schedule).lookup index).isSome := by
    rw [List.lookup_isSome_iff]
    exact ⟨_, List.mem_flatMap.mpr ⟨_, List.mem_map_of_mem hShare, hServed⟩, beq_self_eq_true _⟩
  obtain ⟨other, hOther⟩ := Option.isSome_iff_exists.mp hSome
  obtain ⟨found, hFound, rfl⟩ := answer_of_lookup_answers hWalker hFinder fresh schedule hOther
  obtain ⟨request, hRequest, rfl⟩ := answer_of_mem_serve hWalker hFinder fresh fresh share hServed
  obtain rfl := Option.some.inj (hRequest.symm.trans hFound)
  exact hOther

/-- Every request is answered if no other one fails. -/
theorem lookup_answers {schedule : Schedule} (hCovers : schedule.Covers requests.length)
    {index : Nat} {request : TripRequest α} (hRequest : requests[index]? = some request)
    (hOthers : ∀ other, other ≠ index → ∀ found, requests[other]? = some found →
      ∃ routed, batch.answer finder fresh other found = .ok routed) :
    (batch.answers finder fresh requests schedule).lookup index =
      some (batch.answer finder fresh index request) := by
  obtain ⟨hIndex, -⟩ := List.getElem?_eq_some_iff.mp hRequest
  obtain ⟨share, hShare, hMem⟩ :=
    List.mem_flatten.mp (hCovers.mem_iff.mpr (List.mem_range.mpr hIndex))
  exact lookup_of_mem_serve hWalker hFinder fresh hShare
    (mem_serve hWalker hFinder fresh fresh share hMem hRequest fun other _ => hOthers other)

/-- No plan of a batch is found malformed: what fails is a request. -/
theorem routing_of_routeUnder (schedule : Schedule) {cause : BatchError α}
    (hFailed : ((batch.routeUnder finder fresh schedule requests).run ()).result =
      .error cause) :
    ∃ index request e, requests[index]? = some request ∧
      ((batch.service.route finder request).run fresh).result = .error e ∧
      cause = .routing index request.traveller e := by
  obtain ⟨index, -, hLookup⟩ := exists_of_gather_eq_error hFailed
  obtain ⟨request, hRequest, hAnswer⟩ :=
    answer_of_lookup_answers hWalker hFinder fresh schedule hLookup
  obtain ⟨e, hError, hCause⟩ := answer_eq_error_iff.mp hAnswer.symm
  exact ⟨index, request, e, hRequest, hError, hCause⟩

/-- If every request is routed by a fresh router, a batch answers with these trips. -/
theorem result_routeUnder_of_ok {schedule : Schedule} (hCovers : schedule.Covers requests.length)
    {trips : List (Trip α)}
    (hTrips : requests.map (fun request =>
      ((batch.service.route finder request).run fresh).result) = trips.map .ok) :
    ((batch.routeUnder finder fresh schedule requests).run ()).result =
      .ok (List.zipWith TripRequest.routed requests trips) := by
  have hLength : requests.length = trips.length := by
    simpa using congrArg List.length hTrips
  have hRouted (index : Nat) (request : TripRequest α) (hRequest : requests[index]? = some request) :
      ∃ trip, trips[index]? = some trip ∧
        ((batch.service.route finder request).run fresh).result = .ok trip := by
    have hAt := congrArg (·[index]?) hTrips
    simp only [List.getElem?_map, hRequest, Option.map_some] at hAt
    obtain ⟨trip, hTrip, hOk⟩ := Option.map_eq_some_iff.mp hAt.symm
    exact ⟨trip, hTrip, hOk.symm⟩
  refine gather_eq_ok ?_ fun index routed hAt => ?_
  · rw [List.length_zipWith, ← hLength, Nat.min_self]
  · rw [List.getElem?_zipWith_eq_some] at hAt
    obtain ⟨request, trip, hRequest, hTrip, rfl⟩ := hAt
    obtain ⟨_, hTrip', hOk⟩ := hRouted index request hRequest
    obtain rfl := Option.some.inj (hTrip.symm.trans hTrip')
    have hAnswer := lookup_answers hWalker hFinder fresh hCovers hRequest
      fun other _ found hFound => by
        obtain ⟨_, -, hOther⟩ := hRouted other found hFound
        exact ⟨_, answer_of_ok hOther⟩
    exact hAnswer.trans (congrArg some (answer_of_ok hOk))

/-- If a batch answers, a fresh router routes every request of it. -/
theorem exists_trip_of_routeUnder {schedule : Schedule} (hCovers : schedule.Covers requests.length)
    {routed : List (RoutedTrip α)}
    (hOk : ((batch.routeUnder finder fresh schedule requests).run ()).result = .ok routed) :
    ∀ request ∈ requests, ∃ trip,
      ((batch.service.route finder request).run fresh).result = .ok trip := by
  intro request hMem
  cases hAlone : ((batch.service.route finder request).run fresh).result with
  | ok trip => exact ⟨trip, rfl⟩
  | error e =>
      obtain ⟨index, hRequest⟩ := List.mem_iff_getElem?.mp hMem
      obtain ⟨hIndex, -⟩ := List.getElem?_eq_some_iff.mp hRequest
      obtain ⟨share, hShare, hInShare⟩ :=
        List.mem_flatten.mp (hCovers.mem_iff.mpr (List.mem_range.mpr hIndex))
      obtain ⟨other, cause, hServed⟩ := exists_error_mem_serve hWalker hFinder fresh fresh share
        hInShare hRequest (answer_eq_error_iff.mpr ⟨e, hAlone, rfl⟩)
      obtain ⟨found, hFound, -⟩ := answer_of_mem_serve hWalker hFinder fresh fresh share hServed
      obtain ⟨hOther, -⟩ := List.getElem?_eq_some_iff.mp hFound
      exact absurd (lookup_of_mem_serve hWalker hFinder fresh hShare hServed)
        (lookup_ne_of_gather_eq_ok hOk hOther cause)

/-- If a batch answers, its answers are those of fresh routers, in the order of the requests. -/
theorem routed_of_routeUnder {schedule : Schedule} (hCovers : schedule.Covers requests.length)
    {routed : List (RoutedTrip α)}
    (hOk : ((batch.routeUnder finder fresh schedule requests).run ()).result = .ok routed) :
    routed.length = requests.length ∧
      ∀ (index : Nat) (request : TripRequest α), requests[index]? = some request →
        ∃ trip, ((batch.service.route finder request).run fresh).result = .ok trip ∧
          routed[index]? = some (request.routed trip) := by
  have hAll := exists_trip_of_routeUnder hWalker hFinder fresh hCovers hOk
  obtain ⟨trips, hTrips⟩ := exists_map_eq_map_ok hAll
  obtain rfl := Except.ok.inj
    (hOk.symm.trans (result_routeUnder_of_ok hWalker hFinder fresh hCovers hTrips))
  have hLength : trips.length = requests.length := by
    simpa using (congrArg List.length hTrips).symm
  refine ⟨by rw [List.length_zipWith, hLength, Nat.min_self], fun index request hRequest => ?_⟩
  have hAt := congrArg (·[index]?) hTrips
  simp only [List.getElem?_map, hRequest, Option.map_some] at hAt
  obtain ⟨trip, hTrip, hResult⟩ := Option.map_eq_some_iff.mp hAt.symm
  exact ⟨trip, hResult.symm,
    List.getElem?_zipWith_eq_some.mpr ⟨request, trip, hRequest, hTrip, rfl⟩⟩

/-- If one request is not routed by a fresh router and all others are, a batch fails with
it. -/
theorem result_routeUnder_of_error {schedule : Schedule}
    (hCovers : schedule.Covers requests.length) {index : Nat} {request : TripRequest α}
    {e : RoutingError α} (hRequest : requests[index]? = some request)
    (hError : ((batch.service.route finder request).run fresh).result = .error e)
    (hOthers : ∀ other, other ≠ index → ∀ found, requests[other]? = some found →
      ∃ trip, ((batch.service.route finder found).run fresh).result = .ok trip) :
    ((batch.routeUnder finder fresh schedule requests).run ()).result =
      .error (.routing index request.traveller e) := by
  obtain ⟨hIndex, -⟩ := List.getElem?_eq_some_iff.mp hRequest
  have hAnswer : batch.answer finder fresh index request =
      .error (.routing index request.traveller e) := answer_eq_error_iff.mpr ⟨e, hError, rfl⟩
  refine gather_eq_error hIndex ?_ fun other cause hCause => ?_
  · rw [← hAnswer]
    refine lookup_answers hWalker hFinder fresh hCovers hRequest fun other hOther found hFound => ?_
    obtain ⟨trip, hTrip⟩ := hOthers other hOther found hFound
    exact ⟨_, answer_of_ok hTrip⟩
  · obtain ⟨found, hFound, hFailed⟩ :=
      answer_of_lookup_answers hWalker hFinder fresh schedule hCause
    by_cases hOther : other = index
    · subst hOther
      obtain rfl := Option.some.inj (hRequest.symm.trans hFound)
      exact Except.error.inj (hFailed.trans hAnswer)
    · obtain ⟨trip, hTrip⟩ := hOthers other hOther found hFound
      cases hFailed.trans (answer_of_ok hTrip)

/-- If every request is routed by a fresh router, a batch reports as often and of the same as
fresh routers do. -/
theorem perm_reports_routeUnder {schedule : Schedule} (hCovers : schedule.Covers requests.length)
    (hOk : ∀ request ∈ requests, ∃ trip,
      ((batch.service.route finder request).run fresh).result = .ok trip) :
    (((batch.routeUnder finder fresh schedule requests).run ()).notices.filterMap
      Notice.fallback?).Perm (requests.flatMap (batch.reports finder fresh)) := by
  let reportsAt (index : Nat) := requests[index]?.toList.flatMap (batch.reports finder fresh)
  have hShare (share : List Nat) :
      (batch.serve finder requests fresh share).2.filterMap Notice.fallback? =
        share.flatMap reportsAt := by
    refine reports_serve hWalker hFinder fresh fresh share fun index _ request hRequest => ?_
    obtain ⟨trip, hTrip⟩ := hOk request (List.mem_of_getElem? hRequest)
    exact ⟨_, answer_of_ok hTrip⟩
  have hServed : ((batch.routeUnder finder fresh schedule requests).run ()).notices.filterMap
      Notice.fallback? = schedule.flatten.flatMap reportsAt := by
    rw [List.flatten_eq_flatMap, List.flatMap_assoc]
    simp only [routeUnder, List.filterMap_cons, Notice.fallback?, List.flatMap_map,
      List.filterMap_flatMap, hShare, id]
  have hRange : (List.range requests.length).flatMap reportsAt =
      requests.flatMap (batch.reports finder fresh) := by
    conv_rhs => rw [← filterMap_getElem?_range requests]
    rw [List.filterMap_eq_flatMap_toList, List.flatMap_assoc]
  rw [hServed, ← hRange]
  exact hCovers.flatMap_right reportsAt

end Schedule

/-- Two schedules come to the same, to all trips or to the one failure. -/
theorem result_routeUnder_of_failsAtMostOnce {batch : Batch α} {finder : Pathfinder σ α}
    {fresh : σ} {requests : List (TripRequest α)} {first second : Schedule}
    (hWalker : batch.service.walker.WellFormed) (hFinder : finder.HistoryFree)
    (hFirst : first.Covers requests.length) (hSecond : second.Covers requests.length)
    (hOnce : batch.service.FailsAtMostOnce finder fresh requests) :
    ((batch.routeUnder finder fresh first requests).run ()).result =
      ((batch.routeUnder finder fresh second requests).run ()).result := by
  let alone (request : TripRequest α) := ((batch.service.route finder request).run fresh).result
  by_cases hAll : ∀ request ∈ requests, ∃ trip, alone request = .ok trip
  · obtain ⟨trips, hTrips⟩ := exists_map_eq_map_ok hAll
    rw [result_routeUnder_of_ok hWalker hFinder fresh hFirst hTrips,
      result_routeUnder_of_ok hWalker hFinder fresh hSecond hTrips]
  · obtain ⟨request, hFails⟩ := not_forall.mp hAll
    obtain ⟨hMem, hNone⟩ := Classical.not_imp.mp hFails
    obtain ⟨e, hError⟩ := (Session.exists_error_iff (alone request)).mpr hNone
    obtain ⟨index, hRequest⟩ := List.mem_iff_getElem?.mp hMem
    have hOthers (other : Nat) (hOther : other ≠ index) (found : TripRequest α)
        (hFound : requests[other]? = some found) : ∃ trip, alone found = .ok trip := by
      obtain ⟨hIndex, rfl⟩ := List.getElem?_eq_some_iff.mp hRequest
      obtain ⟨hPlace, rfl⟩ := List.getElem?_eq_some_iff.mp hFound
      have hPairs := List.pairwise_iff_getElem.mp hOnce
      rcases Nat.lt_or_gt_of_ne hOther with hBefore | hAfter
      · obtain ⟨trip, hTrip | hTrip⟩ := hPairs other index hPlace hIndex hBefore
        · exact ⟨trip, hTrip⟩
        · cases hError.symm.trans hTrip
      · obtain ⟨trip, hTrip | hTrip⟩ := hPairs index other hIndex hPlace hAfter
        · cases hError.symm.trans hTrip
        · exact ⟨trip, hTrip⟩
    rw [result_routeUnder_of_error hWalker hFinder fresh hFirst hRequest hError hOthers,
      result_routeUnder_of_error hWalker hFinder fresh hSecond hRequest hError hOthers]

section Congr

variable {service other : Service α} {finder : Pathfinder σ α}
  (hRoute : service.route finder = other.route finder) (checksPlans : Bool) (workers : Option Nat)

include hRoute

/-- Of its service a batch uses how it routes and nothing else. -/
theorem serve_congr (requests : List (TripRequest α)) (s : σ) (share : List Nat) :
    serve ⟨service, checksPlans, workers⟩ finder requests s share =
      serve ⟨other, checksPlans, workers⟩ finder requests s share := by
  have hOne (index : Nat) (request : TripRequest α) :
      routeOne ⟨service, checksPlans, workers⟩ finder index request =
        routeOne ⟨other, checksPlans, workers⟩ finder index request := by
    unfold routeOne
    rw [hRoute]
    rfl
  induction share generalizing s with
  | nil => rfl
  | cons index rest ih => simp only [serve, hOne, ih]

theorem routeUnder_congr (fresh : σ) (schedule : Schedule) (requests : List (TripRequest α)) :
    routeUnder ⟨service, checksPlans, workers⟩ finder fresh schedule requests =
      routeUnder ⟨other, checksPlans, workers⟩ finder fresh schedule requests := by
  have hServe := funext (serve_congr hRoute checksPlans workers requests fresh)
  simp only [routeUnder, hServe]

end Congr

end Batch

/-- The fallbacks that one router reports over a run of requests are those of fresh routers. -/
theorem Service.reports_routeEach {σ α : Type} [Scalar α] (batch : Batch α)
    {finder : Pathfinder σ α} (hFinder : finder.HistoryFree) (fresh s : σ)
    (requests : List (TripRequest α)) :
    (batch.service.routeEach finder s requests).flatMap
        (fun reached => reached.notices.filterMap Notice.fallback?) =
      requests.flatMap (batch.reports finder fresh) := by
  have hEach := congrArg (List.map fun reached => reached.2.filterMap Notice.fallback?)
    (batch.service.map_routeEach hFinder fresh s requests)
  rw [List.map_map, List.map_map] at hEach
  exact congrArg List.flatten hEach

/-- Whoever serves a request of a batch, and after whatever others, it is answered and reported
as a router that was opened for it alone would answer and report it. Neither the schedule nor
the number of workers nor the check of plans shows in what a batch comes to, if all of its
requests are routed or all but one. -/
theorem Batch.routeUnder_schedule_independent {α : Type} [Plane α] {network : Network α}
    {walk : WalkSettings α} {settings : ServiceSettings α} {stops : Option (StopFinder α)}
    {service : Service α}
    (hStart : Service.start settings (Teleport.walker network walk) stops = .ok service)
    {requests : List (TripRequest α)} {schedule : Schedule}
    (hCovers : schedule.Covers requests.length) (checksPlans : Bool) (workers : Option Nat) :
    let alone (request : TripRequest α) :=
      ((service.route (.freeSpeed network) request).run Search.empty).result
    let reached := (Batch.routeUnder ⟨service, checksPlans, workers⟩ (.freeSpeed network)
      Search.empty schedule requests).run ()
    (∀ trips, requests.map alone = trips.map .ok →
      reached.result = .ok (List.zipWith TripRequest.routed requests trips) ∧
      (reached.notices.filterMap Notice.fallback?).Perm
        ((service.routeEach (.freeSpeed network) Search.empty requests).flatMap
          fun one => one.notices.filterMap Notice.fallback?)) ∧
    (∀ index request e, requests[index]? = some request → alone request = .error e →
      (∀ other, other ≠ index → ∀ found, requests[other]? = some found →
        ∃ trip, alone found = .ok trip) →
      reached.result = .error (.routing index request.traveller e)) := by
  intro alone reached
  let batch : Batch α := ⟨service, checksPlans, workers⟩
  have hFinder := Pathfinder.historyFree_freeSpeed network
  have hWalker : batch.service.walker.WellFormed := Service.wellFormed_walker_of_start hStart
  constructor
  · intro trips hTrips
    refine ⟨result_routeUnder_of_ok hWalker hFinder Search.empty hCovers hTrips, ?_⟩
    rw [Service.reports_routeEach batch hFinder Search.empty]
    refine perm_reports_routeUnder hWalker hFinder Search.empty hCovers fun request hMem => ?_
    have hAlone : alone request ∈ trips.map Except.ok := hTrips ▸ List.mem_map_of_mem hMem
    obtain ⟨trip, -, hTrip⟩ := List.mem_map.mp hAlone
    exact ⟨trip, hTrip.symm⟩
  · intro index request e hRequest hError hOthers
    exact result_routeUnder_of_error hWalker hFinder Search.empty hCovers hRequest hError hOthers

/-- A request for a walk of five metres along a link. -/
def strollRequest (departureTime : Float) : TripRequest Float where
  origin := ⟨⟨"a"⟩, some ⟨0, 0⟩, none⟩
  destination := ⟨⟨"a"⟩, some ⟨3, 4⟩, none⟩
  departureTime := departureTime
  traveller := ⟨"p"⟩
  originActivity := "home"
  destinationActivity := "work"

/-- The trip of such a request. -/
def strollTrip (departureTime : Float) : Trip Float :=
  (Course.collapsed [.leg (Teleport.leg .default walkMode ⟨"a"⟩ ⟨"a"⟩ ⟨0, 0⟩ ⟨3, 4⟩ departureTime)]).trip
    .default (strollRequest departureTime)

/-- Two workers serve two requests, the later one first. -/
theorem routeUnder_two_workers :
    ((Batch.routeUnder ⟨⟨.default, Teleport.walker .empty .default, .anyLink⟩, true, some 2⟩
        (.freeSpeed .empty) Search.empty [[1], [0]]
        [strollRequest 0, strollRequest 60]).run ()).result =
      .ok [(strollRequest 0).routed (strollTrip 0), (strollRequest 60).routed (strollTrip 60)] ∧
    ((Batch.routeUnder ⟨⟨.default, Teleport.walker .empty .default, .anyLink⟩, true, some 2⟩
        (.freeSpeed .empty) Search.empty [[1], [0]]
        [strollRequest (-1), strollRequest 60]).run ()).result =
      .error (.routing 0 ⟨"p"⟩ (.invalidRequest (.negative (-1)))) := by
  have hStart : Service.start .default (Teleport.walker .empty .default) none =
      .ok ⟨.default, Teleport.walker (.empty : Network Float) .default, .anyLink⟩ := by rfl
  have hCovers : Schedule.Covers [[1], [0]] 2 := by decide
  constructor
  · exact ((Batch.routeUnder_schedule_independent hStart hCovers true (some 2)).1
      [strollTrip 0, strollTrip 60] (by rfl)).1
  · refine (Batch.routeUnder_schedule_independent hStart hCovers true (some 2)).2
      0 (strollRequest (-1)) _ rfl (by rfl) ?_
    rintro (_ | _ | other) hOther found hFound
    · contradiction
    · obtain rfl := Option.some.inj hFound
      exact ⟨strollTrip 60, by rfl⟩
    · cases hFound

end DemandRide
