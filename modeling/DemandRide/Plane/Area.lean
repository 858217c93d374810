import DemandRide.Plane.Point

/-! Service areas: polygons given by their outer rings. A point is inside a polygon if the
ring winds around it, and a point on the ring itself is outside. Upward edges own their lower
end and downward edges their upper end, so that a ring passing through the height of the
point at a corner is counted once. -/
namespace DemandRide

/-- The corners of a polygon in order. -/
abbrev Ring (α : Type) := List (Point α)

/-- A region of the plane: what lies inside any one of its polygons. -/
structure Area (α : Type) where
  rings : List (Ring α)
deriving DecidableEq, Repr

section

variable {α : Type} [Scalar α]

/-- Repeat the first corner at the end unless the ring already ends there. -/
def Ring.close (ring : Ring α) : Ring α :=
  match ring.head?, ring.getLast? with
  | some first, some last => if first.same last then ring else ring ++ [first]
  | _, _ => ring

/-- The sides of a closed ring. -/
def Ring.edges (ring : Ring α) : List (Point α × Point α) := ring.zip ring.tail

/-- The area bounded by rings that may have been left open. -/
def Area.ofRings (rings : List (Ring α)) : Area α := ⟨rings.map Ring.close⟩

/-- Whether `v` lies between `a` and `b`, in either order of the two. -/
def Scalar.between (v a b : α) : Bool :=
  if Scalar.lt a b then Scalar.le a v && Scalar.le v b
  else Scalar.le b v && Scalar.le v a

end

variable {α : Type} [Plane α]

/-- How often, and in which direction, the edge from `a` to `b` passes to the right of `p`;
`none` if `p` lies on the edge. -/
def crossing? (p a b : Point α) : Option Int :=
  let onEdge := Scalar.between p.x a.x b.x
  if Scalar.le a.y p.y then
    if Scalar.le p.y b.y then
      match Plane.turn a b p with
      | .left => if Scalar.eq b.y p.y then some 0 else some 1
      | .straight => if onEdge then none else some 0
      | .right => some 0
    else some 0
  else if Scalar.le b.y p.y then
    match Plane.turn a b p with
    | .right => some (-1)
    | .straight => if onEdge then none else some 0
    | .left => some 0
  else some 0

/-- How often a closed ring winds around `p`; `none` if `p` lies on the ring. -/
def Ring.winding? (ring : Ring α) (p : Point α) : Option Int :=
  (ring.edges.mapM fun edge => crossing? p edge.1 edge.2).map (List.foldl (· + ·) 0)

/-- Whether `p` is strictly inside one of the polygons. -/
def Area.contains (area : Area α) (p : Point α) : Bool :=
  area.rings.any fun ring => (ring.winding? p).any (· ≠ 0)

end DemandRide
