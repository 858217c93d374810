import Mathlib.Data.List.Forall2
import DemandRide.Proofs.Service.Course

/-! Routers that learn nothing. A search begins with labels and a queue of its own whatever an
earlier search left behind, and no other part of a router has a state at all, so what a router
answers and notices does not depend on the requests it has served before. -/
namespace DemandRide

open Session

variable {σ α : Type}

/-- A path is answered alike from every state of the pathfinder. -/
def Pathfinder.HistoryFree (finder : Pathfinder σ α) : Prop :=
  ∀ query, (finder.find query).HistoryFree

theorem Fallback.historyFree_walk (walker : Walker α) (request : TripRequest α)
    (origin destination : Location α) (time : α) :
    (walk walker request origin destination time : Session σ _ _ _).HistoryFree :=
  (HistoryFree.ofExcept _).mapError _

theorem Pathfinder.historyFree_known (network : Network α) (id : LinkId) :
    (known network id).HistoryFree := by
  unfold known
  split
  · exact .pure _
  · exact .fail _

variable [Scalar α]

/-- A search with what is left of another one finds what a search of its own finds. -/
theorem Search.between_eq (network : Network α) (used other : Search α)
    (source target : NodeId) :
    between network used source target = between network other source target := by
  rw [between, between, enter_clear, enter_clear]

/-- A search is handed to the next query, which clears it. -/
theorem Pathfinder.historyFree_answer (network : Network α) (query : PathQuery α)
    (origin destination : Link α) :
    (answer network query origin destination).HistoryFree := by
  refine HistoryFree.get_bind Search.empty (fun used => ?_) ?_
  · rw [Search.between_eq network used Search.empty]
  · refine (HistoryFree.put _).bind fun _ => ?_
    split
    · exact (HistoryFree.note _).bind fun _ => .pure _
    · exact .fail _

theorem Pathfinder.historyFree_freeSpeed (network : Network α) :
    (freeSpeed network).HistoryFree := by
  intro query
  refine (historyFree_known network _).bind fun origin => ?_
  refine (historyFree_known network _).bind fun destination => ?_
  split
  · exact .pure _
  · exact historyFree_answer network query origin destination

theorem Ride.historyFree_build (settings : ServiceSettings α) {finder : Pathfinder σ α}
    (hFinder : finder.HistoryFree) (query : PathQuery α) :
    (build settings finder query).HistoryFree := by
  refine ((hFinder query).mapError _).bind fun path => ?_
  exact (HistoryFree.note _).bind fun _ => .pure _

theorem Fallback.historyFree_collapsed (settings : ServiceSettings α) (walker : Walker α)
    (request : TripRequest α) (reason : FallbackReason) :
    (collapsed settings walker request reason : Session σ _ _ _).HistoryFree := by
  intro s t
  rw [run_collapsed, run_collapsed]
  exact ⟨rfl, rfl⟩

theorem Fallback.historyFree_retagged (settings : ServiceSettings α) (walker : Walker α)
    (request : TripRequest α) (reason : FallbackReason) :
    (retagged settings walker request reason : Session σ _ _ _).HistoryFree := by
  intro s t
  rw [run_retagged, run_retagged]
  exact ⟨rfl, rfl⟩

namespace DoorToDoor

theorem historyFree_beforeRide (settings : ServiceSettings α) (walker : Walker α)
    (request : TripRequest α) :
    (beforeRide settings walker request : Session σ _ _ _).HistoryFree := by
  intro s t
  rw [run_beforeRide, run_beforeRide]
  exact ⟨rfl, rfl⟩

theorem historyFree_afterRide (settings : ServiceSettings α) (walker : Walker α)
    (request : TripRequest α) (time : α) :
    (afterRide settings walker request time : Session σ _ _ _).HistoryFree := by
  intro s t
  rw [run_afterRide, run_afterRide]
  exact ⟨rfl, rfl⟩

theorem historyFree_route (settings : ServiceSettings α) (walker : Walker α)
    {finder : Pathfinder σ α} (hFinder : finder.HistoryFree) (request : TripRequest α) :
    (route settings walker finder request).HistoryFree := by
  refine ((HistoryFree.ofExcept _).mapError _).bind fun _ => ?_
  split
  · exact Fallback.historyFree_collapsed settings walker request .sameLink
  · refine (historyFree_beforeRide settings walker request).bind fun before => ?_
    refine (Ride.historyFree_build settings hFinder _).bind fun ride => ?_
    refine (historyFree_afterRide settings walker request _).bind fun after => ?_
    exact (HistoryFree.note _).bind fun _ => .pure _

end DoorToDoor

namespace ViaStops

theorem historyFree_ride (settings : ServiceSettings α) (walker : Walker α)
    {finder : Pathfinder σ α} (hFinder : finder.HistoryFree) (request : TripRequest α)
    (access egress : Stop α) :
    (ride settings walker finder request access egress).HistoryFree := by
  refine (Fallback.historyFree_walk walker request _ _ _).bind fun toStop => ?_
  refine (Ride.historyFree_build settings hFinder _).bind fun ride => ?_
  refine (Fallback.historyFree_walk walker request _ _ _).bind fun fromStop => ?_
  exact (HistoryFree.note _).bind fun _ => .pure _

theorem historyFree_route (settings : ServiceSettings α) (walker : Walker α)
    (stops : StopFinder α) {finder : Pathfinder σ α} (hFinder : finder.HistoryFree)
    (request : TripRequest α) :
    (route settings walker stops finder request).HistoryFree := by
  refine ((HistoryFree.ofExcept _).mapError _).bind fun _ => ?_
  refine (HistoryFree.stateless _).bind fun pair => ?_
  split
  · exact Fallback.historyFree_retagged settings walker request _
  · exact historyFree_ride settings walker hFinder request _ _

end ViaStops

namespace Service

/-- A service adds no memory to that of its pathfinder. -/
theorem historyFree_route (service : Service α) {finder : Pathfinder σ α}
    (hFinder : finder.HistoryFree) (request : TripRequest α) :
    (service.route finder request).HistoryFree := by
  unfold route
  split
  · exact DoorToDoor.historyFree_route _ _ hFinder request
  · exact ViaStops.historyFree_route _ _ _ hFinder request

/-- One router serves requests one after the other, each from the state that the one before
left. A request that fails ends nothing. -/
def routeEach (service : Service α) (finder : Pathfinder σ α) :
    σ → List (TripRequest α) → List (Outcome σ (Notice α) (RoutingError α) (Trip α))
  | _, [] => []
  | s, request :: rest =>
    let reached := (service.route finder request).run s
    reached :: service.routeEach finder reached.state rest

/-- Each outcome of a run is that of its request from some state. -/
theorem forall₂_routeEach (service : Service α) (finder : Pathfinder σ α) (s : σ)
    (requests : List (TripRequest α)) :
    List.Forall₂ (fun request reached => ∃ t, reached = (service.route finder request).run t)
      requests (service.routeEach finder s requests) := by
  induction requests generalizing s with
  | nil => exact .nil
  | cons request rest ih => exact .cons ⟨s, rfl⟩ (ih _)

/-- In a run of requests each is answered and noticed as a router that has served nothing
would answer and notice it. -/
theorem map_routeEach (service : Service α) {finder : Pathfinder σ α}
    (hFinder : finder.HistoryFree) (fresh s : σ) (requests : List (TripRequest α)) :
    (service.routeEach finder s requests).map (fun reached => (reached.result, reached.notices)) =
      requests.map fun request =>
        let alone := (service.route finder request).run fresh
        (alone.result, alone.notices) := by
  induction requests generalizing s with
  | nil => rfl
  | cons request rest ih =>
      obtain ⟨hResult, hNotices⟩ := service.historyFree_route hFinder request s fresh
      rw [routeEach, List.map_cons, List.map_cons, ih, hResult, hNotices]

end Service

end DemandRide
