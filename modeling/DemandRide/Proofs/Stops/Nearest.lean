import DemandRide.Proofs.Session
import DemandRide.Stops.Finder

/-! Which stops are chosen. A stop is chosen for a point exactly if there is one in reach of it,
and it is one of those in reach. -/
namespace DemandRide

variable {α : Type} [Scalar α]

namespace StopIndex

variable {index : StopIndex α} {point : Point α} {stop : Stop α}

theorem mem_of_best? {stops : List (Stop α)} (h : best? point stops = some stop) :
    stop ∈ stops := by
  cases stops with
  | nil => cases h
  | cons first rest =>
      obtain rfl := Option.some.inj h
      clear h
      induction rest generalizing first with
      | nil => exact List.mem_cons_self
      | cons next rest ih =>
          rw [List.foldl_cons]
          split
          · exact List.mem_cons_of_mem _ (ih next)
          · rcases List.mem_cons.mp (ih first) with hFirst | hLater
            · exact List.mem_cons.mpr (.inl hFirst)
            · exact List.mem_cons_of_mem _ (List.mem_cons_of_mem _ hLater)

/-- The stop chosen for a point is one of the index in reach of the point. -/
theorem mem_of_nearest? (h : index.nearest? point = some stop) :
    stop ∈ index.stops ∧ index.reaches point stop :=
  List.mem_filter.mp (mem_of_best? h)

theorem exists_nearest?_iff :
    (∃ stop, index.nearest? point = some stop) ↔
      ∃ stop ∈ index.stops, index.reaches point stop := by
  constructor
  · rintro ⟨stop, hStop⟩
    exact ⟨stop, mem_of_nearest? hStop⟩
  · rintro ⟨stop, hStop⟩
    have hThere := List.mem_filter.mpr hStop
    unfold nearest?
    cases hReached : index.stops.filter (index.reaches point) with
    | nil => simp [hReached] at hThere
    | cons first rest => exact ⟨_, rfl⟩

end StopIndex

/-- The stops of a trip are those chosen for the points of its places. -/
theorem StopFinder.result_nearest_eq_ok_iff {network : Network α} {index : StopIndex α}
    {origin destination : Location α} {pair : StopPair α} :
    (((nearest network index).find origin destination).run ()).result = .ok pair ↔
      ∃ start goal, network.resolve origin = .ok start ∧ network.resolve destination = .ok goal ∧
        ⟨index.nearest? start, index.nearest? goal⟩ = pair := by
  simp only [nearest, seek, StopIndex.choose, Session.result_bind_eq_ok_iff, Session.run_mapError,
    Session.run_ofExcept, Session.mapError_eq_ok_iff, Session.map_eq_ok_iff, Session.run_note,
    Session.run_pure]
  constructor
  · rintro ⟨_, ⟨_, ⟨start, hStart, rfl⟩, _, -, hFirst⟩, _, ⟨_, ⟨goal, hGoal, rfl⟩, _, -, hLast⟩, hPair⟩
    cases hFirst
    cases hLast
    cases hPair
    exact ⟨start, goal, hStart, hGoal, rfl⟩
  · rintro ⟨start, goal, hStart, hGoal, rfl⟩
    exact ⟨_, ⟨_, ⟨start, hStart, rfl⟩, (), trivial, rfl⟩, _,
      ⟨_, ⟨goal, hGoal, rfl⟩, (), trivial, rfl⟩, rfl⟩

end DemandRide
