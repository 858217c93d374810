import DemandRide.Itinerary.Alternation
import Mathlib.Data.List.Chain
import Mathlib.Data.Option.Basic

/-! Which plans pass the check of their structure, said without the scan. Once the kinds of a
plan are known, only neighbours matter: a trip passes exactly if its kinds alternate when an
activity is put at either end, and such a condition splits at every activity of the trip. -/
namespace DemandRide

/-- The element that a fault is found at. There is none in an empty plan, and that a plan ends
with a leg is found after all of its elements. -/
def Violation.index? : Violation → Option Nat
  | .empty => none
  | .firstNotActivity => some 0
  | .activityAfterActivity index => some index
  | .legAfterLeg index => some index
  | .lastNotActivity => none
  | .unrecognizedElement index => some index

namespace Alternation

theorem index?_misplaced (found : ElementKind) (index : Nat) :
    (misplaced found index).index? = some index := by
  cases found <;> cases index <;> rfl

/-- Kinds no two neighbours of which agree. -/
abbrev Alternates (kinds : List ElementKind) : Prop := kinds.IsChain (· ≠ ·)

theorem eq_next_iff (found previous : ElementKind) : found = next previous ↔ previous ≠ found := by
  cases found <;> cases previous <;> decide

/-- What the scan expects is all it remembers of the element before. The first element is
scanned as if a leg had come before it. -/
theorem scan_next_eq_ok_iff (previous : ElementKind) (index : Nat)
    (kinds : List (Option ElementKind)) (final : ElementKind) :
    scan (next previous) index kinds = .ok final ↔
      ∃ known, kinds = known.map some ∧ Alternates (previous :: known) ∧
        final = next (known.getLastD previous) := by
  induction kinds generalizing previous index with
  | nil => simp [scan, eq_comm (a := final)]
  | cons kind rest ih =>
      cases kind with
      | none =>
          simp only [scan, reduceCtorEq, false_iff]
          rintro ⟨known, hKnown, -⟩
          obtain ⟨_, _, _, hNone, _⟩ := List.map_eq_cons_iff.mp hKnown.symm
          cases hNone
      | some found =>
          have hStep : scan (next previous) index (some found :: rest) = .ok final ↔
              previous ≠ found ∧ scan (next found) (index + 1) rest = .ok final := by
            rw [← eq_next_iff, scan]
            split <;> simp_all
          rw [hStep, ih]
          constructor
          · rintro ⟨hNe, known, rfl, hChain, hFinal⟩
            exact ⟨found :: known, rfl, .cons_cons hNe hChain, by rwa [List.getLastD_cons]⟩
          · rintro ⟨known, hKnown, hChain, hFinal⟩
            obtain ⟨first, known, rfl, hFirst, rfl⟩ := List.map_eq_cons_iff.mp hKnown.symm
            cases hFirst
            obtain ⟨hNe, hChain⟩ := List.isChain_cons_cons.mp hChain
            exact ⟨hNe, known, rfl, hChain, by rwa [List.getLastD_cons] at hFinal⟩

theorem check_eq_ok_iff_scan (kinds : List (Option ElementKind)) :
    check kinds = .ok () ↔ scan .activity 0 kinds = .ok .leg := by
  cases kinds with
  | nil => simp [check, scan]
  | cons kind rest =>
      simp only [check, List.isEmpty_cons, Bool.false_eq_true, if_false]
      split <;> simp_all

/-- A list passes exactly if every kind in it is known, the kinds alternate after a leg, so
that the first is an activity, and the last is an activity too. -/
theorem check_eq_ok_iff (kinds : List (Option ElementKind)) :
    check kinds = .ok () ↔
      ∃ known, kinds = known.map some ∧ Alternates (.leg :: known) ∧
        known.getLast? = some .activity := by
  have hLast (known : List ElementKind) :
      ElementKind.leg = next (known.getLastD .leg) ↔ known.getLast? = some .activity := by
    rw [List.getLastD_eq_getLast?]
    rcases known.getLast? with _ | _ | _ <;> decide
  rw [check_eq_ok_iff_scan]
  change scan (next .leg) 0 kinds = _ ↔ _
  rw [scan_next_eq_ok_iff]
  simp only [hLast]

/-- What is scanned later is scanned from where the scan of what comes before it has come to. -/
theorem scan_append (expected : ElementKind) (index : Nat)
    (before after : List (Option ElementKind)) :
    scan expected index (before ++ after) =
      scan expected index before >>= fun next => scan next (index + before.length) after := by
  induction before generalizing expected index with
  | nil => rfl
  | cons kind rest ih =>
      cases kind with
      | none => rfl
      | some found =>
          rw [List.cons_append, scan, scan]
          split
          · rw [ih, List.length_cons, Nat.add_assoc, Nat.add_comm 1]
          · rfl

/-- A scan that fails does so at one of the elements it goes through. -/
theorem index?_of_scan {expected : ElementKind} {index : Nat} {kinds : List (Option ElementKind)}
    {violation : Violation} (h : scan expected index kinds = .error violation) :
    ∃ place, violation.index? = some place ∧ index ≤ place ∧ place < index + kinds.length := by
  induction kinds generalizing expected index with
  | nil => cases h
  | cons kind rest ih =>
      have hHere : index < index + (kind :: rest).length := by simp
      cases kind with
      | none =>
          cases h
          exact ⟨index, rfl, Nat.le_refl _, hHere⟩
      | some found =>
          rw [scan] at h
          split at h
          · obtain ⟨place, hPlace, hFrom, hTo⟩ := ih h
            refine ⟨place, hPlace, by omega, ?_⟩
            rw [List.length_cons]
            omega
          · cases h
            exact ⟨index, index?_misplaced found index, Nat.le_refl _, hHere⟩

/-- A fault at an element is found by the scan, and nothing but the scan finds one. -/
theorem check_eq_error_iff_scan {kinds : List (Option ElementKind)} {violation : Violation}
    {place : Nat} (hPlace : violation.index? = some place) :
    check kinds = .error violation ↔ scan .activity 0 kinds = .error violation := by
  cases kinds with
  | nil =>
      simp only [check, scan, List.isEmpty_nil, if_true, Except.error.injEq, reduceCtorEq,
        iff_false]
      rintro rfl
      cases hPlace
  | cons kind rest =>
      simp only [check, List.isEmpty_cons, Bool.false_eq_true, if_false]
      split
      · simp_all
      · simp_all
      · simp_all only [reduceCtorEq, iff_false, Except.error.injEq]
        rintro rfl
        cases hPlace

/-- Whether there is a fault at one of the first elements does not depend on those that follow. -/
theorem check_append_eq_error_iff {before after : List (Option ElementKind)}
    {violation : Violation} {place : Nat} (hPlace : violation.index? = some place)
    (hBefore : place < before.length) :
    check (before ++ after) = .error violation ↔ scan .activity 0 before = .error violation := by
  rw [check_eq_error_iff_scan hPlace, scan_append]
  cases hScan : scan .activity 0 before with
  | error found => rfl
  | ok next =>
      refine iff_of_false (fun hLater => ?_) nofun
      obtain ⟨later, hIndex, hFrom, -⟩ := index?_of_scan hLater
      obtain rfl := Option.some.inj (hPlace.symm.trans hIndex)
      omega

/-- A check ends at an element of neither kind, unless there is a fault before it. Such a fault is
found whatever follows. -/
theorem check_append_none (before after others : List (Option ElementKind)) :
    (∃ violation place, violation.index? = some place ∧ place < before.length ∧
      check (before ++ others) = .error violation ∧
      check (before ++ none :: after) = .error violation) ∨
    (∀ violation place, violation.index? = some place →
      check (before ++ others) = .error violation → before.length ≤ place) ∧
      check (before ++ none :: after) = .error (.unrecognizedElement before.length) := by
  cases hScan : scan .activity 0 before with
  | error violation =>
      obtain ⟨place, hPlace, -, hBefore⟩ := index?_of_scan hScan
      rw [Nat.zero_add] at hBefore
      exact .inl ⟨violation, place, hPlace, hBefore,
        (check_append_eq_error_iff hPlace hBefore).mpr hScan,
        (check_append_eq_error_iff hPlace hBefore).mpr hScan⟩
  | ok next =>
      refine .inr ⟨fun violation place hPlace hFault => ?_, ?_⟩
      · by_contra hBefore
        cases hScan.symm.trans
          ((check_append_eq_error_iff hPlace (Nat.lt_of_not_le hBefore)).mp hFault)
      · have hPlace : (Violation.unrecognizedElement before.length).index? = some before.length :=
          rfl
        rw [check_eq_error_iff_scan hPlace, scan_append, hScan, Nat.zero_add]
        rfl

/-- Kinds that alternate once they are put between two activities. -/
def Fits (kinds : List ElementKind) : Prop := Alternates (.activity :: (kinds ++ [.activity]))

/-- An activity separates what comes before it from what comes after. -/
theorem fits_append_activity_cons (before after : List ElementKind) :
    Fits (before ++ .activity :: after) ↔ Fits before ∧ Fits after := by
  unfold Fits Alternates
  rw [List.append_assoc, List.cons_append, ← List.cons_append, List.isChain_split,
    List.cons_append]

theorem fits_leg : Fits [.leg] := by
  simp [Fits]

end Alternation

open Alternation

variable {α : Type}

/-- A walk that can stand between two activities: its first and its last element are legs, so
it is not empty, and legs and activities alternate. -/
structure WellFormedWalk (elements : List (Element α)) : Prop where
  begins : (elements.map Element.kind).head? = some .leg
  ends : (elements.map Element.kind).getLast? = some .leg
  alternates : Alternates (elements.map Element.kind)

theorem wellFormedWalk_iff_fits (elements : List (Element α)) :
    WellFormedWalk elements ↔ Fits (elements.map Element.kind) := by
  have hLeg (kind : ElementKind) : ElementKind.activity ≠ kind ↔ kind = .leg := by
    cases kind <;> decide
  unfold Fits Alternates
  rw [List.isChain_cons, List.isChain_append]
  constructor
  · rintro ⟨hBegins, hEnds, hAlternates⟩
    refine ⟨?_, hAlternates, List.isChain_singleton _, ?_⟩
    · intro kind hKind
      rw [List.head?_append, hBegins] at hKind
      exact (hLeg kind).mpr (Option.some.inj hKind).symm
    · rintro kind hKind _ ⟨⟩
      rw [hEnds] at hKind
      exact ((hLeg kind).mpr (Option.some.inj hKind).symm).symm
  · rintro ⟨hFirst, hAlternates, -, hLast⟩
    cases hKinds : elements.map Element.kind with
    | nil => simp [hKinds] at hFirst
    | cons first rest =>
        rw [hKinds] at hFirst hLast
        refine ⟨?_, ?_, hAlternates⟩
        · rw [hKinds]
          exact congrArg some ((hLeg first).mp (hFirst first rfl))
        · have hEnd := List.getLast?_eq_some_getLast (List.cons_ne_nil first rest)
          rw [hKinds, hEnd]
          exact congrArg some ((hLeg _).mp (hLast _ hEnd _ rfl).symm)

/-- The traveller's own activities at its ends are what a trip has to fit between. -/
theorem check_toPlan_eq_ok_iff (trip : Trip α) (origin destination : Activity α) :
    (trip.toPlan origin destination).check = .ok () ↔ Fits (trip.elements.map Element.kind) := by
  have hKinds : (trip.toPlan origin destination).elements.map (fun element => some element.kind) =
      (ElementKind.activity :: (trip.elements.map Element.kind ++ [.activity])).map some := by
    simp [Trip.toPlan, Element.kind]
  rw [Plan.check, check_eq_ok_iff, hKinds]
  constructor
  · rintro ⟨known, hKnown, hChain, -⟩
    obtain rfl := List.map_injective_iff.mpr (Option.some_injective _) hKnown
    exact (List.isChain_cons_cons.mp hChain).2
  · intro hFits
    exact ⟨_, rfl, .cons_cons (by decide) hFits, by simp [List.getLast?_cons]⟩

end DemandRide
