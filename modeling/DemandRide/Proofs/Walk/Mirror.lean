import DemandRide.Proofs.Number.Symmetry
import DemandRide.Proofs.Road.LeastTime
import DemandRide.Proofs.Service.Comparison

/-! Walks there and back. A walk tells of pieces, each from where the one before it ends, and what
is told of a piece is its beeline and the time that takes. The pieces of the way back are those of
the way there turned about, in the other order, and as beelines are the same both ways, so is what
is told of them. -/
namespace DemandRide

variable {α : Type}

/-- The leg in the other direction. -/
def Leg.turned (leg : Leg α) : Leg α :=
  { leg with startLink := leg.endLink, endLink := leg.startLink }

namespace Teleport

/-- A part of a walk that is one leg: from which link and point to which it leads. -/
structure Piece (α : Type) where
  mode : String
  startLink : LinkId
  endLink : LinkId
  start : Point α
  goal : Point α

namespace Piece

def turned (piece : Piece α) : Piece α where
  mode := piece.mode
  startLink := piece.endLink
  endLink := piece.startLink
  start := piece.goal
  goal := piece.start

/-- Whether a piece begins on the link and at the point where another ends. -/
structure Meets (piece next : Piece α) : Prop where
  link : piece.endLink = next.startLink
  point : piece.goal = next.start

theorem Meets.turned {piece next : Piece α} (h : piece.Meets next) :
    next.turned.Meets piece.turned :=
  ⟨h.link.symm, h.point.symm⟩

/-- Whether a leg is along the beeline of a piece, at the speed and with the detour of a walk. -/
structure Describes [Plane α] (settings : WalkSettings α) (piece : Piece α) (leg : Leg α) :
    Prop where
  mode : leg.mode = piece.mode
  startLink : leg.startLink = piece.startLink
  endLink : leg.endLink = piece.endLink
  distance : leg.distance = some (Plane.beeline piece.start piece.goal * settings.beelineFactor)
  travelTime : leg.travelTime =
    Plane.beeline piece.start piece.goal * settings.beelineFactor / settings.speed
  ride : leg.ride = none

end Piece

section Telling

variable [Plane α] {settings : WalkSettings α}

/-- What a walk over pieces consists of: a leg for each, with a change that takes no time wherever
one piece meets the next. -/
inductive Tells (settings : WalkSettings α) : List (Piece α) → List (Element α) → Prop where
  | last {piece : Piece α} {leg : Leg α} (hLeg : piece.Describes settings leg) :
      Tells settings [piece] [.leg leg]
  | change {piece next : Piece α} {leg : Leg α} {pieces : List (Piece α)}
      {elements : List (Element α)} (hLeg : piece.Describes settings leg)
      (hMeets : piece.Meets next) (rest : Tells settings (next :: pieces) elements) :
      Tells settings (piece :: next :: pieces)
        (.leg leg :: interaction (.onLink piece.endLink) :: elements)

theorem Piece.describes_leg (settings : WalkSettings α) (piece : Piece α) (time : α) :
    piece.Describes settings (leg settings piece.mode piece.startLink piece.endLink piece.start
      piece.goal time) :=
  ⟨rfl, rfl, rfl, rfl, rfl, rfl⟩

/-- A beeline is the same both ways. -/
theorem Piece.Describes.turned [SymmetricPlane α] {piece : Piece α} {leg : Leg α}
    (h : piece.Describes settings leg) : piece.turned.Describes settings leg.turned where
  mode := h.mode
  startLink := h.endLink
  endLink := h.startLink
  distance := by
    rw [Leg.turned, h.distance, SymmetricPlane.beeline_comm]
    rfl
  travelTime := by
    rw [Leg.turned, h.travelTime, SymmetricPlane.beeline_comm]
    rfl
  ride := h.ride

/-- Two legs that describe the same piece differ in their departures at most. -/
theorem Piece.Describes.redated {piece : Piece α} {leg other : Leg α}
    (h : piece.Describes settings leg) (hOther : piece.Describes settings other) :
    Element.Redated (.leg leg) (.leg other) := by
  have hOther : other = { leg with departureTime := other.departureTime } := by
    cases leg
    cases other
    cases h
    cases hOther
    simp_all
  rw [hOther]
  exact .leg _ _

namespace Tells

variable {pieces : List (Piece α)} {elements others : List (Element α)}

/-- What is told of pieces is the same but for the departures. -/
theorem redated (h : Tells settings pieces elements) (hOthers : Tells settings pieces others) :
    List.Forall₂ Element.Redated elements others := by
  induction h generalizing others with
  | last hLeg =>
      cases hOthers with
      | last hOther => exact .cons (hLeg.redated hOther) .nil
  | change hLeg _ _ ih =>
      cases hOthers with
      | change hOther _ rest =>
          exact .cons (hLeg.redated hOther) (.cons (.activity _) (ih rest))

/-- A walk is continued where its last piece ends. -/
theorem snoc {last piece : Piece α} {leg : Leg α} (h : Tells settings pieces elements)
    (hLast : last ∈ pieces.getLast?) (hMeets : last.Meets piece)
    (hLeg : piece.Describes settings leg) :
    Tells settings (pieces ++ [piece])
      (elements ++ [interaction (.onLink last.endLink), .leg leg]) := by
  induction h with
  | last hFirst =>
      cases hLast
      exact .change hFirst hMeets (.last hLeg)
  | change hFirst hFirstMeets _ ih => exact .change hFirst hFirstMeets (ih hLast)

/-- The way back tells of the pieces turned about. -/
theorem reverse [SymmetricPlane α] (h : Tells settings pieces elements) :
    Tells settings (pieces.reverse.map Piece.turned)
      (elements.reverse.map (Element.mapLeg Leg.turned)) := by
  induction h with
  | last hLeg => exact .last hLeg.turned
  | @change piece next leg pieces elements hLeg hMeets _ ih =>
      -- Turned about, the first piece comes last, after the one that it met.
      have hLast : next.turned ∈ ((next :: pieces).reverse.map Piece.turned).getLast? := by simp
      have hBack := ih.snoc hLast hMeets.turned hLeg.turned
      have hChange : interaction (.onLink next.turned.endLink) =
          (interaction (.onLink piece.endLink) : Element α) :=
        congrArg (fun link => interaction (.onLink link)) hMeets.link.symm
      rw [hChange] at hBack
      simpa [Element.mapLeg, interaction] using hBack

end Tells

end Telling

section Walks

variable [Plane α]

/-- The pieces of a walk between two places on links. The piece on the network joins the points of
the links, unless the walk stays on beelines between the places; a place that is not at the point
of its link is joined to it by a piece off the network. -/
def pieces (settings : WalkSettings α) (origin destination : LinkId)
    (start goal startPoint goalPoint : Point α) : List (Piece α) :=
  if settings.accessEgress then
    (if start.same startPoint then [] else [⟨offNetworkMode, origin, origin, start, startPoint⟩]) ++
      ⟨walkMode, origin, destination, startPoint, goalPoint⟩ ::
        if goal.same goalPoint then []
        else [⟨offNetworkMode, destination, destination, goalPoint, goal⟩]
  else [⟨walkMode, origin, destination, start, goal⟩]

variable (settings : WalkSettings α) (origin destination : LinkId)
  (start goal startPoint goalPoint : Point α)

theorem reverse_pieces :
    (pieces settings origin destination start goal startPoint goalPoint).reverse.map Piece.turned =
      pieces settings destination origin goal start goalPoint startPoint := by
  unfold pieces
  split
  · split <;> split <;> rfl
  · rfl

theorem tells_joined (hOn : settings.accessEgress = true) (time : α) :
    Tells settings (pieces settings origin destination start goal startPoint goalPoint)
      (joined settings origin destination start goal startPoint goalPoint time) := by
  unfold pieces joined access egress
  rw [if_pos hOn]
  split <;> split
  · exact .last (Piece.describes_leg ..)
  · exact .change (Piece.describes_leg ..) ⟨rfl, rfl⟩ (.last (Piece.describes_leg ..))
  · exact .change (Piece.describes_leg ..) ⟨rfl, rfl⟩ (.last (Piece.describes_leg ..))
  · exact .change (Piece.describes_leg ..) ⟨rfl, rfl⟩
      (.change (Piece.describes_leg ..) ⟨rfl, rfl⟩ (.last (Piece.describes_leg ..)))

variable {settings origin destination start goal startPoint goalPoint}

/-- A walk begins at its first place, or at the point of the link if that is the same. -/
theorem start_of_head?_pieces {piece : Piece α}
    (h : piece ∈ (pieces settings origin destination start goal startPoint goalPoint).head?) :
    piece.start = start ∨ start.same piece.start := by
  unfold pieces at h
  split at h
  · split at h
    · next hSame =>
        cases h
        exact .inr hSame
    · cases h
      exact .inl rfl
  · cases h
    exact .inl rfl

/-- A walk ends at its last place, or at the point of the link if that is the same. -/
theorem goal_of_getLast?_pieces {piece : Piece α}
    (h : piece ∈ (pieces settings origin destination start goal startPoint goalPoint).getLast?) :
    piece.goal = goal ∨ goal.same piece.goal := by
  rw [← List.head?_reverse] at h
  have hBack : piece.turned ∈
      (pieces settings destination origin goal start goalPoint startPoint).head? := by
    rw [← reverse_pieces, List.head?_map]
    exact Option.mem_map_of_mem _ h
  exact start_of_head?_pieces hBack

end Walks

section Ways

variable [Plane α] {network : Network α}

/-- Between known links there is a walk, and it tells of its pieces. -/
theorem exists_walk_tells (settings : WalkSettings α)
    {origin destination : Location α} {start goal startPoint goalPoint : Point α}
    (hStart : network.resolve origin = .ok start) (hGoal : network.resolve destination = .ok goal)
    (hStartPoint : network.linkPoint origin.link = .ok startPoint)
    (hGoalPoint : network.linkPoint destination.link = .ok goalPoint) (time : α)
    (traveller : TravellerId) :
    ∃ elements, (walker network settings).walk origin destination time traveller = .ok elements ∧
      Tells settings (pieces settings origin.link destination.link start goal startPoint goalPoint)
        elements := by
  change ∃ elements, route network settings origin destination time = .ok elements ∧ _
  simp only [route_eq_ok_iff]
  cases hOn : settings.accessEgress with
  | true =>
      exact ⟨_, ⟨start, goal, hStart, hGoal, .inr ⟨rfl, startPoint, goalPoint, hStartPoint,
        hGoalPoint, rfl⟩⟩, tells_joined _ _ _ _ _ _ _ hOn time⟩
  | false =>
      refine ⟨_, ⟨start, goal, hStart, hGoal, .inl ⟨rfl, rfl⟩⟩, ?_⟩
      simp only [pieces, hOn, Bool.false_eq_true, if_false]
      exact .last (Piece.describes_leg ..)

end Ways

/-- Beside the first of the two roads, and beside the last. -/
def besideIn : Location Float := ⟨⟨"in"⟩, some ⟨5, 10⟩, none⟩

def besideOut : Location Float := ⟨⟨"out"⟩, some ⟨1015, 20⟩, none⟩

end Teleport

end DemandRide
