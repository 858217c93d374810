/-! Dividing a list at one of its elements, the pivot, into the elements below it and the others.
Neither part keeps the order of the list, but what is divided is exactly what the list held. -/
namespace DemandRide.Selection

variable {β : Type}

/-- What has been sifted so far: the elements below the pivot, the last of them first, and the
others as a queue, whose back is kept in reverse. -/
structure Sieve (β : Type) where
  lows : List β
  front : List β
  back : List β

namespace Sieve

def empty : Sieve β := ⟨[], [], []⟩

/-- The elements that are not below the pivot. -/
def highs (sieve : Sieve β) : List β := sieve.front ++ sieve.back.reverse

def toList (sieve : Sieve β) : List β := sieve.lows ++ sieve.highs

/-- Let the first of the queue go to its end. -/
def turn : Sieve β → Sieve β
  | ⟨lows, x :: front, back⟩ => ⟨lows, front, x :: back⟩
  | ⟨lows, [], back⟩ =>
    match back.reverse with
    | [] => ⟨lows, [], []⟩
    | x :: front => ⟨lows, front, [x]⟩

/-- Take in one more element. Whichever side it goes to, the queue is turned first, and an
element that joins it goes to its head. -/
def add (isLow : β → Bool) (sieve : Sieve β) (x : β) : Sieve β :=
  let turned := sieve.turn
  if isLow x then { turned with lows := x :: turned.lows }
  else { turned with front := x :: turned.front }

theorem turn_perm (sieve : Sieve β) : sieve.turn.toList.Perm sieve.toList := by
  obtain ⟨lows, front, back⟩ := sieve
  cases front with
  | cons x front =>
    simp only [turn, toList, highs, List.reverse_cons, List.cons_append]
    rw [← List.append_assoc front]
    exact (List.perm_append_singleton x _).append_left lows
  | nil =>
    cases hBack : back.reverse with
    | nil => simp [turn, toList, highs, hBack]
    | cons x front =>
      simp only [turn, toList, highs, hBack, List.reverse_singleton, List.nil_append]
      exact (List.perm_append_singleton x front).append_left lows

theorem add_perm (isLow : β → Bool) (sieve : Sieve β) (x : β) :
    (sieve.add isLow x).toList.Perm (x :: sieve.toList) := by
  refine .trans ?_ (sieve.turn_perm.cons x)
  unfold add
  split
  · exact .refl _
  · exact List.perm_middle

end Sieve

/-- A list divided at a pivot. -/
structure Division (β : Type) where
  lows : List β
  pivot : β
  highs : List β

def Division.toList (division : Division β) : List β :=
  division.lows ++ division.pivot :: division.highs

/-- Divide what a pivot was taken from. The head is sifted last, and the low elements come out
with the last of them in front. -/
def divideBy (isLow : β → Bool) (pivot : β) : List β → Division β
  | [] => ⟨[], pivot, []⟩
  | head :: rest =>
    let sieve := (rest ++ [head]).foldl (Sieve.add isLow) .empty
    match sieve.lows with
    | [] => ⟨[], pivot, sieve.highs⟩
    | last :: lows => ⟨last :: lows.reverse, pivot, sieve.highs⟩

theorem foldl_add_perm (isLow : β → Bool) (xs : List β) (sieve : Sieve β) :
    (xs.foldl (Sieve.add isLow) sieve).toList.Perm (xs ++ sieve.toList) := by
  induction xs generalizing sieve with
  | nil => exact .refl _
  | cons x xs ih =>
    refine (ih _).trans ?_
    exact ((sieve.add_perm isLow x).append_left xs).trans List.perm_middle

theorem divideBy_perm (isLow : β → Bool) (pivot : β) (xs : List β) :
    (divideBy isLow pivot xs).toList.Perm (pivot :: xs) := by
  cases xs with
  | nil => exact .refl _
  | cons head rest =>
    have hSifted := foldl_add_perm isLow (rest ++ [head]) .empty
    have hHead : (rest ++ [head] ++ (Sieve.empty : Sieve β).toList).Perm (head :: rest) := by
      simp [Sieve.toList, Sieve.highs, Sieve.empty]
    refine .trans ?_ ((hSifted.trans hHead).cons pivot)
    simp only [divideBy]
    split
    · next hLows =>
      simp only [Division.toList, Sieve.toList, hLows, List.nil_append]
      exact .refl _
    · next last lows hLows =>
      simp only [Division.toList, Sieve.toList, hLows, List.cons_append]
      refine (@List.perm_middle _ pivot (last :: lows.reverse) _).trans (.cons pivot ?_)
      exact ((List.reverse_perm lows).append_right _).cons last

/-- Divide a list at the element of the given place, whose own place the head takes. -/
def divide (isLow : β → β → Bool) (place : Nat) (head : β) (rest : List β) : Division β :=
  match place with
  | 0 => divideBy (isLow · head) head rest
  | place + 1 =>
    let pivot := rest.getD place head
    divideBy (isLow · pivot) pivot (rest.set place head)

theorem getD_cons_set_perm (head : β) (rest : List β) (place : Nat) :
    (rest.getD place head :: rest.set place head).Perm (head :: rest) := by
  induction rest generalizing place with
  | nil => simp
  | cons x rest ih =>
    cases place with
    | zero => exact .swap head x rest
    | succ place =>
      have hRest := (ih place).cons x
      simp only [List.getD_cons_succ, List.set_cons_succ]
      exact ((List.Perm.swap _ _ _).trans hRest).trans (.swap head x rest)

theorem divide_perm (isLow : β → β → Bool) (place : Nat) (head : β) (rest : List β) :
    (divide isLow place head rest).toList.Perm (head :: rest) := by
  cases place with
  | zero => exact divideBy_perm _ head rest
  | succ place => exact (divideBy_perm _ _ _).trans (getD_cons_set_perm head rest place)

end DemandRide.Selection
