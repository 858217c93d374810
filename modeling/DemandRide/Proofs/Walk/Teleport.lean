import DemandRide.Proofs.Itinerary.Alternation
import DemandRide.Proofs.Itinerary.Timeline
import DemandRide.Proofs.Session
import DemandRide.Walk.Teleport

/-! The shape of teleported walks. A walk is one leg, or a leg on the network that up to two
others join to the places; whichever it is, it fits between two activities and its legs depart
by the clock. -/
namespace DemandRide

/-- Every leg of a walk departs at the given time moved on over what the walk returned before
it. Nothing is said about the durations or about walks that fail. -/
def Walker.KeepsTime {α : Type} [Scalar α] (walker : Walker α) : Prop :=
  ∀ origin destination time traveller elements,
    walker.walk origin destination time traveller = .ok elements → Punctual time elements

namespace Teleport

variable {α : Type} [Plane α]

/-- A leg between the points of two links and what joins the places to it. -/
def joined (settings : WalkSettings α) (origin destination : LinkId)
    (start goal startPoint goalPoint : Point α) (time : α) : List (Element α) :=
  let first := access settings origin start startPoint time
  let main : Element α :=
    .leg (leg settings walkMode origin destination startPoint goalPoint
      (Element.advanceOver time first))
  first ++ main :: egress settings destination goal goalPoint
    (Element.advance (Element.advanceOver time first) main)

/-- A walk answers exactly if what it looks up is there: the points of the places and, where
it leaves the network, the points of their links. -/
theorem route_eq_ok_iff {network : Network α} {settings : WalkSettings α}
    {origin destination : Location α} {time : α} {elements : List (Element α)} :
    route network settings origin destination time = .ok elements ↔
      ∃ start goal, network.resolve origin = .ok start ∧ network.resolve destination = .ok goal ∧
        ((settings.accessEgress = false ∧
            [.leg (leg settings walkMode origin.link destination.link start goal time)] =
              elements) ∨
          (settings.accessEgress = true ∧
            ∃ startPoint goalPoint, network.linkPoint origin.link = .ok startPoint ∧
              network.linkPoint destination.link = .ok goalPoint ∧
              joined settings origin.link destination.link start goal startPoint goalPoint time =
                elements)) := by
  unfold route
  cases network.resolve origin with
  | error e => simp [bind, Except.bind]
  | ok start =>
      cases network.resolve destination with
      | error e => simp [bind, Except.bind]
      | ok goal =>
          cases settings.accessEgress with
          | false => simp [bind, Except.bind, pure, Except.pure]
          | true =>
              cases network.linkPoint origin.link with
              | error e => simp [bind, Except.bind]
              | ok startPoint =>
                  cases network.linkPoint destination.link with
                  | error e => simp [bind, Except.bind]
                  | ok goalPoint => simp [bind, Except.bind, pure, Except.pure, joined]

/-- A walk has no elements but legs along beelines and changes between them. -/
theorem mem_route {network : Network α} {settings : WalkSettings α}
    {origin destination : Location α} {time : α} {elements : List (Element α)}
    (h : route network settings origin destination time = .ok elements) {element : Element α}
    (hElement : element ∈ elements) :
    (∃ mode startLink endLink start goal departureTime,
        element = .leg (leg settings mode startLink endLink start goal departureTime)) ∨
      ∃ place, element = interaction place := by
  obtain ⟨start, goal, -, -, ⟨-, rfl⟩ | ⟨-, startPoint, goalPoint, -, -, rfl⟩⟩ :=
    route_eq_ok_iff.mp h
  · exact .inl ⟨_, _, _, _, _, _, List.mem_singleton.mp hElement⟩
  · unfold joined access egress at hElement
    split at hElement <;> split at hElement <;> grind

open Alternation in
theorem fits_joined (settings : WalkSettings α) (origin destination : LinkId)
    (start goal startPoint goalPoint : Point α) (time : α) :
    Fits ((joined settings origin destination start goal startPoint goalPoint time).map
      Element.kind) := by
  unfold joined access egress
  split <;> split <;> simp [Fits, Element.kind, interaction]

theorem wellFormedWalk_of_route {network : Network α} {settings : WalkSettings α}
    {origin destination : Location α} {time : α} {elements : List (Element α)}
    (h : route network settings origin destination time = .ok elements) :
    WellFormedWalk elements := by
  rw [wellFormedWalk_iff_fits]
  obtain ⟨start, goal, -, -, ⟨-, rfl⟩ | ⟨-, startPoint, goalPoint, -, -, rfl⟩⟩ :=
    route_eq_ok_iff.mp h
  · exact Alternation.fits_leg
  · exact fits_joined ..

theorem punctual_access (settings : WalkSettings α) (link : LinkId) (place linkPoint : Point α)
    (time : α) : Punctual time (access settings link place linkPoint time) := by
  unfold access
  split
  · exact punctual_nil time
  · rw [punctual_cons, punctual_singleton_leg]
    exact ⟨rfl, punctual_singleton_activity _ _⟩

theorem punctual_egress (settings : WalkSettings α) (link : LinkId) (place linkPoint : Point α)
    (time : α) : Punctual time (egress settings link place linkPoint time) := by
  unfold egress
  split
  · exact punctual_nil time
  · rw [punctual_cons, punctual_singleton_leg]
    exact ⟨punctual_singleton_activity _ _, rfl⟩

theorem punctual_joined (settings : WalkSettings α) (origin destination : LinkId)
    (start goal startPoint goalPoint : Point α) (time : α) :
    Punctual time
      (joined settings origin destination start goal startPoint goalPoint time) := by
  refine (punctual_append _ _ _).mpr ⟨punctual_access _ _ _ _ _, ?_⟩
  rw [punctual_cons, punctual_singleton_leg]
  exact ⟨rfl, punctual_egress _ _ _ _ _⟩

theorem keepsTime_walker (network : Network α) (settings : WalkSettings α) :
    (walker network settings).KeepsTime := by
  intro origin destination time traveller elements hWalk
  have hRoute : route network settings origin destination time = .ok elements := hWalk
  obtain ⟨start, goal, -, -, ⟨-, rfl⟩ | ⟨-, startPoint, goalPoint, -, -, rfl⟩⟩ :=
    route_eq_ok_iff.mp hRoute
  · exact (punctual_singleton_leg _ _).mpr rfl
  · exact punctual_joined _ _ _ _ _ _ _ _

end Teleport

end DemandRide
