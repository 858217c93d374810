import DemandRide.Place
import DemandRide.Selection.Arrangement

/-! The order in which stops are searched. The plane is cut into bands along `y`, each band
into tiles along `x`, and large tiles again in the same way, until none holds more than six
stops. The tiles are searched one after the other from the lower left, and the stops of a tile
from the last to the first. The order holds the stops it was made from and nothing else. -/
namespace DemandRide.Tiling

/-- The most stops that a tile is left with. -/
def capacity : Nat := 6

/-- The number of parts of a size that a whole is cut into, if the last may fall short. -/
def parts (whole size : Nat) : Nat := (whole + size - 1) / size

/-- The least number whose square is not below `n`. -/
def sideOf (n : Nat) : Nat := ((List.range n).find? fun side => n ≤ side * side).getD n

/-- How often so many stops have to be cut before they fit into tiles. -/
def levels (count : Nat) : Nat :=
  if count ≤ capacity then 0 else levels (parts count capacity) + 1
termination_by count
decreasing_by
  simp only [parts, capacity] at *
  omega

/-- The direction of a cut. -/
inductive Axis where
  | x
  | y
deriving DecidableEq, Repr

def Axis.coordinate {α : Type} (axis : Axis) (stop : Stop α) : α :=
  match axis with
  | .x => stop.point.x
  | .y => stop.point.y

variable {α : Type} [Scalar α]

/-- Arrange stops so that none of the first `size` lies further along an axis than any of the
others. -/
def arrange (axis : Axis) (size : Nat) (stops : List (Stop α)) : List (Stop α) :=
  Selection.arrange (fun a b => Scalar.lt (axis.coordinate a) (axis.coordinate b)) size stops

theorem arrange_perm (axis : Axis) (size : Nat) (stops : List (Stop α)) :
    (arrange axis size stops).Perm stops :=
  Selection.arrange_perm _ size stops

/-- Cut stops along an axis into slices of the given size, the last of which may fall short. -/
def slices (axis : Axis) (size : Nat) (stops : List (Stop α)) : List (List (Stop α)) :=
  if size = 0 ∨ stops.length ≤ size then [stops]
  else
    let arranged := arrange axis size stops
    arranged.take size :: slices axis size (arranged.drop size)
termination_by stops.length
decreasing_by
  have hLength := (arrange_perm axis size stops).length_eq
  simp only [List.length_drop]
  omega

theorem slices_flatten_perm (axis : Axis) (size : Nat) (stops : List (Stop α)) :
    (slices axis size stops).flatten.Perm stops := by
  fun_induction slices axis size stops with
  | case1 stops _ => simp
  | case2 stops _ arranged ih =>
    rw [List.flatten_cons]
    refine (List.Perm.append_left _ ih).trans ?_
    rw [List.take_append_drop]
    exact arrange_perm axis size stops

omit [Scalar α] in
theorem flatMap_perm_flatten (f : List (Stop α) → List (Stop α)) (h : ∀ part, (f part).Perm part)
    (whole : List (List (Stop α))) : (whole.flatMap f).Perm whole.flatten := by
  induction whole with
  | nil => exact .refl _
  | cons part rest ih => exact (h part).append ih

/-- The order of search in stops that are still to be cut so many times: bands are cut into
as many tiles as there are bands. -/
def searchOrderAt : (level : Nat) → List (Stop α) → List (Stop α)
  | 0, stops => stops.reverse
  | level + 1, stops =>
    let side := sideOf (parts stops.length (capacity ^ (level + 1)))
    (slices .y (parts stops.length side) stops).flatMap fun band =>
      (slices .x (parts band.length side) band).flatMap (searchOrderAt level)

theorem searchOrderAt_perm (level : Nat) (stops : List (Stop α)) :
    (searchOrderAt level stops).Perm stops := by
  induction level generalizing stops with
  | zero => exact List.reverse_perm stops
  | succ level ih =>
    refine (flatMap_perm_flatten _ (fun band => ?_) _).trans (slices_flatten_perm .y _ stops)
    exact (flatMap_perm_flatten _ ih _).trans (slices_flatten_perm .x _ band)

/-- The order of search. -/
def searchOrder (stops : List (Stop α)) : List (Stop α) :=
  searchOrderAt (levels stops.length) stops

theorem searchOrder_perm (stops : List (Stop α)) : (searchOrder stops).Perm stops :=
  searchOrderAt_perm _ stops

/-- Few enough stops are searched from the last to the first. -/
theorem searchOrder_of_le (stops : List (Stop α)) (h : stops.length ≤ capacity) :
    searchOrder stops = stops.reverse := by
  rw [searchOrder, levels, if_pos h]
  rfl

end DemandRide.Tiling
