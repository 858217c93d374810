import DemandRide.Selection.Division
import DemandRide.Selection.Median

/-! Arranging a list around one of its places, so that what stands before the place is not
greater, and what stands from it on not less, than what belongs there. Elements that compare
alike end up where the divisions of the list leave them; what an arrangement holds is always
what the list held. -/
namespace DemandRide.Selection

variable {β : Type}

/-- The longest list that is sorted rather than divided. -/
def sortedLength : Nat := 16

/-- Sort a list; elements that compare alike keep their order. -/
def sort (less : β → β → Bool) (xs : List β) : List β := xs.mergeSort fun a b => !less b a

theorem sort_perm (less : β → β → Bool) (xs : List β) : (sort less xs).Perm xs :=
  List.mergeSort_perm _ _

/-- Go on with the part of a division that the place `index` lies in, if it is not that of the
pivot. Places are counted from the start of the part. -/
def Division.focus (parts : Division β) (index : Nat) (below above : Nat → List β → List β) :
    List β :=
  if index < parts.lows.length then below index parts.lows ++ parts.pivot :: parts.highs
  else if index = parts.lows.length then parts.toList
  else parts.lows ++ parts.pivot :: above (index - parts.lows.length - 1) parts.highs

theorem Division.focus_perm (parts : Division β) (index : Nat)
    {below above : Nat → List β → List β} (hBelow : ∀ index xs, (below index xs).Perm xs)
    (hAbove : ∀ index xs, (above index xs).Perm xs) :
    (parts.focus index below above).Perm parts.toList := by
  unfold focus
  split
  · exact (hBelow index parts.lows).append_right _
  · split
    · exact .refl _
    · exact ((hAbove _ parts.highs).cons _).append_left _

/-- How many medians of nine elements each are looked at in a list of the given length. -/
def medianCount (length : Nat) : Nat :=
  if length ≤ 1024 then length / 12
  else if length ≤ 131072 then length / 64
  else length / 1024

/-- Arrange a list with pivots that are never far from its middle: each is the median of medians
of nine elements. The fuel is an upper bound on the length. -/
def arrangeByMedians (less : β → β → Bool) : (fuel index : Nat) → List β → List β
  | 0, _, xs => xs
  | fuel + 1, index, xs =>
    if xs.length ≤ sortedLength then sort less xs
    else if index + 1 = xs.length then greatestLast less xs
    else if index = 0 then leastFirst less xs
    else
      let count := medianCount xs.length
      let start := xs.length / 2 - count / 2
      let gathered := (gatherNinthers less start count xs.toArray).toList
      let medians := arrangeByMedians less fuel (count / 2) ((gathered.drop start).take count)
      match gathered.take start ++ (medians ++ (gathered.drop start).drop count) with
      | [] => []
      | head :: rest =>
        (divide less (start + count / 2) head rest).focus index (arrangeByMedians less fuel)
          (arrangeByMedians less fuel)

theorem arrangeByMedians_perm (less : β → β → Bool) (fuel index : Nat) (xs : List β) :
    (arrangeByMedians less fuel index xs).Perm xs := by
  induction fuel generalizing index xs with
  | zero => exact .refl _
  | succ fuel ih =>
    rw [arrangeByMedians]
    split
    · exact sort_perm less xs
    split
    · exact greatestLast_perm less xs
    split
    · exact leastFirst_perm less xs
    dsimp only
    generalize hCount : medianCount xs.length = count
    generalize hStart : xs.length / 2 - count / 2 = start
    have hGathered : (gatherNinthers less start count xs.toArray).toList.Perm xs :=
      Array.perm_iff_toList_perm.mp (gatherNinthers_perm less start count xs.toArray)
    generalize (gatherNinthers less start count xs.toArray).toList = gathered at hGathered ⊢
    have hJoined : (gathered.take start ++ (arrangeByMedians less fuel (count / 2)
        ((gathered.drop start).take count) ++ (gathered.drop start).drop count)).Perm xs := by
      refine .trans (.append_left _ ((ih _ _).append_right _)) ?_
      rw [List.take_append_drop, List.take_append_drop]
      exact hGathered
    split
    · next hNil => rwa [hNil] at hJoined
    · next head rest hCons =>
      rw [hCons] at hJoined
      exact ((Division.focus_perm _ _ ih ih).trans (divide_perm _ _ _ _)).trans hJoined

/-- Arrange a list around the place `index`. Short lists are sorted. A longer one is divided
at a pivot, and the part with the place in it is arranged in turn. The floor is the pivot that
the list was last found not to be below; where the new pivot is no greater, what equals it is
divided from what is greater. After `limit` divisions the pivots are chosen with more care. -/
def arrangeAround (less : β → β → Bool) :
    (limit : Nat) → (floor : Option β) → (index : Nat) → List β → List β
  | 0, _, index, xs => arrangeByMedians less xs.length index xs
  | _ + 1, _, _, [] => []
  | limit + 1, floor, index, head :: rest =>
    if rest.length < sortedLength then sort less (head :: rest)
    else
      let place := pivotPlace less (head :: rest).toArray 0 (rest.length + 1)
      let pivot := (head :: rest).getD place head
      if floor.any fun floor => !less floor pivot then
        (divide (fun x pivot => !less pivot x) place head rest).focus index (fun _ lows => lows)
          (arrangeAround less limit none)
      else
        (divide less place head rest).focus index (arrangeAround less limit floor)
          (arrangeAround less limit (some pivot))

theorem arrangeAround_perm (less : β → β → Bool) (limit : Nat) (floor : Option β) (index : Nat)
    (xs : List β) : (arrangeAround less limit floor index xs).Perm xs := by
  induction limit generalizing floor index xs with
  | zero => exact arrangeByMedians_perm less xs.length index xs
  | succ limit ih =>
    cases xs with
    | nil => exact .refl _
    | cons head rest =>
      rw [arrangeAround]
      split
      · exact sort_perm less (head :: rest)
      dsimp only
      split
      · exact (Division.focus_perm _ _ (fun _ _ => .refl _) (ih none)).trans (divide_perm _ _ _ _)
      · exact (Division.focus_perm _ _ (ih floor) (ih (some _))).trans (divide_perm _ _ _ _)

/-- How many divisions are made with pivots of little care. -/
def divisionLimit : Nat := 16

/-- Arrange a list so that none of its first `size` elements is greater than any of the others.
Where a single one is to be set apart, the rest of the list stays where it is. -/
def arrange (less : β → β → Bool) (size : Nat) (xs : List β) : List β :=
  if xs.length = size + 1 then greatestLast less xs
  else arrangeAround less divisionLimit none size xs

theorem arrange_perm (less : β → β → Bool) (size : Nat) (xs : List β) :
    (arrange less size xs).Perm xs := by
  unfold arrange
  split
  · exact greatestLast_perm less xs
  · exact arrangeAround_perm less divisionLimit none size xs

end DemandRide.Selection
