/-! Medians and extremes of the elements at given places of an array, and exchanges that bring
them to where a selection needs them. An exchange never changes what the array holds. -/
namespace DemandRide.Selection

variable {β : Type}

/-- Whether the element at one place is less than that at another. -/
def lessAt (less : β → β → Bool) (xs : Array β) (i j : Nat) : Bool :=
  match xs[i]?, xs[j]? with
  | some a, some b => less a b
  | _, _ => false

theorem swapIfInBounds_perm (xs : Array β) (i j : Nat) : (xs.swapIfInBounds i j).Perm xs := by
  unfold Array.swapIfInBounds
  split
  · split
    · exact Array.swap_perm _ _
    · exact .refl _
  · exact .refl _

/-- The place of the first of the greatest elements. -/
def greatestPlace (less : β → β → Bool) (xs : Array β) : Nat :=
  (List.range xs.size).foldl (fun best place => if lessAt less xs best place then place else best) 0

/-- The place of the first of the least elements. -/
def leastPlace (less : β → β → Bool) (xs : Array β) : Nat :=
  (List.range xs.size).foldl (fun best place => if lessAt less xs place best then place else best) 0

/-- Let the first of the greatest elements change places with the last element. -/
def greatestLast (less : β → β → Bool) (xs : List β) : List β :=
  (xs.toArray.swapIfInBounds (greatestPlace less xs.toArray) (xs.length - 1)).toList

/-- Let the first of the least elements change places with the first element. -/
def leastFirst (less : β → β → Bool) (xs : List β) : List β :=
  (xs.toArray.swapIfInBounds (leastPlace less xs.toArray) 0).toList

theorem greatestLast_perm (less : β → β → Bool) (xs : List β) : (greatestLast less xs).Perm xs :=
  Array.perm_iff_toList_perm.mp (swapIfInBounds_perm xs.toArray _ _)

theorem leastFirst_perm (less : β → β → Bool) (xs : List β) : (leastFirst less xs).Perm xs :=
  Array.perm_iff_toList_perm.mp (swapIfInBounds_perm xs.toArray _ _)

/-- The place of a median of three elements; the first of them is preferred to the others only
where it lies strictly between them. -/
def medianPlace (less : β → β → Bool) (xs : Array β) (i j k : Nat) : Nat :=
  if lessAt less xs i j = lessAt less xs i k then
    if lessAt less xs j k = lessAt less xs i j then j else k
  else i

/-- The place of a median of three elements, the second where it is one. -/
def middlePlace (less : β → β → Bool) (xs : Array β) (i j k : Nat) : Nat :=
  let (i, k) := if lessAt less xs k i then (k, i) else (i, k)
  if lessAt less xs k j then k else if lessAt less xs j i then i else j

/-- The place of the pivot among `count` elements from `start` on: the median of three that
lie apart, each of which is the pivot of its part if there are many. -/
def pivotPlace (less : β → β → Bool) (xs : Array β) (start count : Nat) : Nat :=
  let step := count / 8
  let second := start + 4 * step
  let third := start + 7 * step
  if count < 64 then medianPlace less xs start second third
  else
    medianPlace less xs (pivotPlace less xs start step) (pivotPlace less xs second step)
      (pivotPlace less xs third step)
termination_by count

/-- Bring the middle one of nine elements to the place `middle`, so that at least four of them
are not greater and four not less. Of three triples, the median of the second is taken, unless
it lies outside the medians of the first and the third. -/
def ninther (less : β → β → Bool) (apart : Nat) (xs : Array β) (left middle right : Nat) :
    Array β :=
  let low := middlePlace less xs left (middle - apart) right
  let high := middlePlace less xs (left + 2) (middle + apart) (right + 2)
  let (low, high) := if lessAt less xs high low then (high, low) else (low, high)
  let (lower, upper) :=
    if lessAt less xs (right + 1) (left + 1) then (right + 1, left + 1)
    else (left + 1, right + 1)
  let central :=
    if lessAt less xs middle lower then lower
    else if lessAt less xs upper middle then upper
    else middle
  let chosen :=
    if lessAt less xs central low then low
    else if lessAt less xs high central then high
    else central
  xs.swapIfInBounds chosen middle

/-- Bring medians of nine elements each to `count` places from `start` on. The elements around
a median are taken from both sides of these places and from places `count` away. -/
def gatherNinthers (less : β → β → Bool) (start count : Nat) (xs : Array β) : Array β :=
  let gap := (xs.size - 9 * count) / 4
  let left := start - 4 * count - gap
  let right := start + count + gap
  (List.range count).foldl
    (fun xs n => ninther less count xs (left + 3 * n) (start + n) (right + 3 * n)) xs

theorem ninther_perm (less : β → β → Bool) (apart : Nat) (xs : Array β) (left middle right : Nat) :
    (ninther less apart xs left middle right).Perm xs :=
  swapIfInBounds_perm xs _ _

theorem gatherNinthers_perm (less : β → β → Bool) (start count : Nat) (xs : Array β) :
    (gatherNinthers less start count xs).Perm xs := by
  unfold gatherNinthers
  generalize (xs.size - 9 * count) / 4 = gap
  dsimp only
  generalize List.range count = steps
  induction steps generalizing xs with
  | nil => exact .refl _
  | cons n steps ih => exact (ih _).trans (ninther_perm less count xs _ _ _)

end DemandRide.Selection
