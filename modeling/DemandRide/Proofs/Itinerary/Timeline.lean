import DemandRide.Itinerary.Trip

/-! Legs that depart by the traveller's own clock. The clock is moved on by every element
before a leg, from the left and one at a time, so all of this holds of any addition. -/
namespace DemandRide

variable {α : Type} [Scalar α]

namespace Element

theorem advanceOver_append (time : α) (before after : List (Element α)) :
    advanceOver time (before ++ after) = advanceOver (advanceOver time before) after :=
  List.foldl_append

/-- A reading is the clock moved on over the elements that come before it. -/
theorem getElem?_readings (time : α) (elements : List (Element α)) (i : Nat)
    (hIndex : i ≤ elements.length) :
    (readings time elements)[i]? = some (advanceOver time (elements.take i)) := by
  induction elements generalizing time i with
  | nil =>
      obtain rfl : i = 0 := Nat.le_zero.mp hIndex
      rfl
  | cons element rest ih =>
      cases i with
      | zero => rfl
      | succ i => exact ih (advance time element) i (Nat.le_of_succ_le_succ hIndex)

/-- The readings depend on how long the elements take, and on nothing else of them. -/
theorem readings_congr {elements others : List (Element α)}
    (h : elements.map duration = others.map duration) (time : α) :
    readings time elements = readings time others := by
  induction elements generalizing others time with
  | nil =>
      obtain rfl := List.map_eq_nil_iff.mp h.symm
      rfl
  | cons element rest ih =>
      cases others with
      | nil => cases h
      | cons other others =>
          obtain ⟨hDuration, hRest⟩ := List.cons.inj h
          have hClock : advance time element = advance time other :=
            congrArg (time + ·) hDuration
          rw [readings, readings, hClock, ih hRest]

end Element

/-- The element at an index is no leg, or it is one that departs when a clock started at
`time` has been moved on over everything before it. -/
def PunctualAt (time : α) (elements : List (Element α)) (i : Nat) : Prop :=
  ∀ leg, elements[i]? = some (.leg leg) →
    leg.departureTime = Element.advanceOver time (elements.take i)

/-- Every leg departs by the clock. -/
def Punctual (time : α) (elements : List (Element α)) : Prop :=
  ∀ i, PunctualAt time elements i

/-- What the clock says of a leg is what the readings say at its index. -/
theorem PunctualAt.getElem?_readings {time : α} {elements : List (Element α)} {i : Nat}
    (h : PunctualAt time elements i) {leg : Leg α} (hLeg : elements[i]? = some (.leg leg)) :
    (Element.readings time elements)[i]? = some leg.departureTime := by
  obtain ⟨hIndex, -⟩ := List.getElem?_eq_some_iff.mp hLeg
  rw [Element.getElem?_readings time elements i (Nat.le_of_lt hIndex), h leg hLeg]

theorem punctual_nil (time : α) : Punctual time [] := by
  intro i leg hLeg
  simp at hLeg

/-- Before a seam the clock knows nothing of what follows. -/
theorem punctualAt_append_left {time : α} {before after : List (Element α)} {i : Nat}
    (hIndex : i < before.length) :
    PunctualAt time (before ++ after) i ↔ PunctualAt time before i := by
  unfold PunctualAt
  rw [List.getElem?_append_left hIndex, List.take_append_of_le_length (Nat.le_of_lt hIndex)]

/-- After a seam it starts from what it read there. -/
theorem punctualAt_append_right {time : α} {before after : List (Element α)} (i : Nat) :
    PunctualAt time (before ++ after) (before.length + i) ↔
      PunctualAt (Element.advanceOver time before) after i := by
  unfold PunctualAt
  rw [List.getElem?_append_right (Nat.le_add_right _ _), Nat.add_sub_cancel_left,
    List.take_length_add_append, Element.advanceOver_append]

theorem punctual_append (time : α) (before after : List (Element α)) :
    Punctual time (before ++ after) ↔
      Punctual time before ∧ Punctual (Element.advanceOver time before) after := by
  constructor
  · intro h
    refine ⟨fun i => ?_, fun i => (punctualAt_append_right i).mp (h _)⟩
    by_cases hIndex : i < before.length
    · exact (punctualAt_append_left hIndex).mp (h i)
    · intro leg hLeg
      rw [List.getElem?_eq_none (Nat.le_of_not_lt hIndex)] at hLeg
      cases hLeg
  · rintro ⟨hBefore, hAfter⟩ i
    by_cases hIndex : i < before.length
    · exact (punctualAt_append_left hIndex).mpr (hBefore i)
    · obtain ⟨k, rfl⟩ := Nat.exists_eq_add_of_le (Nat.le_of_not_lt hIndex)
      exact (punctualAt_append_right k).mpr (hAfter k)

theorem punctual_cons (time : α) (element : Element α) (rest : List (Element α)) :
    Punctual time (element :: rest) ↔
      Punctual time [element] ∧ Punctual (Element.advance time element) rest :=
  punctual_append time [element] rest

/-- One element may keep its own time: what comes before and after it is still on time. -/
theorem punctualAt_append_cons {time : α} {before after : List (Element α)} {element : Element α}
    {i : Nat} (hBefore : Punctual time before)
    (hAfter : Punctual (Element.advance (Element.advanceOver time before) element) after)
    (hOther : i ≠ before.length) : PunctualAt time (before ++ element :: after) i := by
  rcases Nat.lt_or_gt_of_ne hOther with hIndex | hIndex
  · exact (punctualAt_append_left hIndex).mpr (hBefore i)
  · have hPassed : (before ++ [element]).length ≤ i := by
      rw [List.length_append]
      exact hIndex
    obtain ⟨k, rfl⟩ := Nat.exists_eq_add_of_le hPassed
    rw [List.append_cons, punctualAt_append_right, Element.advanceOver_append]
    exact hAfter k

theorem punctual_singleton_activity (time : α) (activity : Activity α) :
    Punctual time [.activity activity] := by
  intro i leg hLeg
  cases i <;> simp at hLeg

theorem punctual_singleton_leg (time : α) (leg : Leg α) :
    Punctual time [.leg leg] ↔ leg.departureTime = time := by
  constructor
  · exact fun h => h 0 leg rfl
  · intro hTime i other hOther
    cases i with
    | zero =>
        cases hOther
        exact hTime
    | succ i => simp at hOther

/-- A change of legs that keeps their times keeps them on time. -/
theorem Punctual.map_mapLeg {time : α} {elements : List (Element α)} {change : Leg α → Leg α}
    (hDeparture : ∀ leg, (change leg).departureTime = leg.departureTime)
    (hTravel : ∀ leg, (change leg).travelTime = leg.travelTime)
    (h : Punctual time elements) : Punctual time (elements.map (Element.mapLeg change)) := by
  have hClock (element : Element α) (reading : α) :
      Element.advance reading (element.mapLeg change) = Element.advance reading element := by
    cases element with
    | activity activity => rfl
    | leg leg => exact congrArg (reading + ·) (hTravel leg)
  have hClocks (start : α) (passed : List (Element α)) :
      Element.advanceOver start (passed.map (Element.mapLeg change)) =
        Element.advanceOver start passed := by
    simp only [Element.advanceOver, List.foldl_map, hClock]
  intro i leg hLeg
  rw [List.getElem?_map] at hLeg
  obtain ⟨element, hElement, hChange⟩ := Option.map_eq_some_iff.mp hLeg
  cases element with
  | activity activity => cases hChange
  | leg original =>
      cases hChange
      rw [← List.map_take, hClocks, hDeparture]
      exact h i original hElement

end DemandRide
