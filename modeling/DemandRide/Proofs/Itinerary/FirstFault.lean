import DemandRide.Proofs.Itinerary.Alternation
import DemandRide.Service.Notice

/-! Which fault a check of the structure finds. Every fault of an element is said of the element
and the one before it alone. The check finds the one that stands first, and that a plan ends with
a leg only where no element is at fault. -/
namespace DemandRide

namespace Alternation

/-- What is wrong with the element at `index`: it is of neither kind, of the same kind as the
element before it, or a leg that nothing comes before. -/
inductive FaultAt (kinds : List (Option ElementKind)) : Nat → Violation → Prop where
  | unrecognizedElement {index : Nat} (hHere : kinds[index]? = some none) :
      FaultAt kinds index (.unrecognizedElement index)
  | firstNotActivity (hHere : kinds[0]? = some (some .leg)) : FaultAt kinds 0 .firstNotActivity
  | legAfterLeg {before : Nat} (hBefore : kinds[before]? = some (some .leg))
      (hHere : kinds[before + 1]? = some (some .leg)) :
      FaultAt kinds (before + 1) (.legAfterLeg (before + 1))
  | activityAfterActivity {before : Nat} (hBefore : kinds[before]? = some (some .activity))
      (hHere : kinds[before + 1]? = some (some .activity)) :
      FaultAt kinds (before + 1) (.activityAfterActivity (before + 1))

/-- No element is at fault. -/
def Faultless (kinds : List (Option ElementKind)) : Prop :=
  ∀ index violation, ¬FaultAt kinds index violation

/-- The fault that stands before all others. -/
def FirstFault (kinds : List (Option ElementKind)) (index : Nat) (violation : Violation) : Prop :=
  FaultAt kinds index violation ∧ ∀ earlier < index, ∀ other, ¬FaultAt kinds earlier other

section Faults

variable {kinds before after : List (Option ElementKind)} {index : Nat}
  {violation other : Violation}

theorem FaultAt.lt_length (h : FaultAt kinds index violation) : index < kinds.length := by
  cases h with
  | unrecognizedElement hHere => exact (List.getElem?_eq_some_iff.mp hHere).1
  | firstNotActivity hHere => exact (List.getElem?_eq_some_iff.mp hHere).1
  | legAfterLeg _ hHere => exact (List.getElem?_eq_some_iff.mp hHere).1
  | activityAfterActivity _ hHere => exact (List.getElem?_eq_some_iff.mp hHere).1

/-- There is one thing wrong with an element at most. -/
theorem FaultAt.unique (h : FaultAt kinds index violation) (h' : FaultAt kinds index other) :
    violation = other := by
  cases h <;> cases h' <;> simp_all

/-- Only an element and what comes before it matter to its fault. -/
theorem FaultAt.congr (hSame : ∀ place ≤ index, before[place]? = after[place]?)
    (h : FaultAt before index violation) : FaultAt after index violation := by
  cases h with
  | unrecognizedElement hHere =>
      exact .unrecognizedElement ((hSame _ (Nat.le_refl _)).symm.trans hHere)
  | firstNotActivity hHere =>
      exact .firstNotActivity ((hSame _ (Nat.le_refl _)).symm.trans hHere)
  | legAfterLeg hPrior hHere =>
      exact .legAfterLeg ((hSame _ (Nat.le_succ _)).symm.trans hPrior)
        ((hSame _ (Nat.le_refl _)).symm.trans hHere)
  | activityAfterActivity hPrior hHere =>
      exact .activityAfterActivity ((hSame _ (Nat.le_succ _)).symm.trans hPrior)
        ((hSame _ (Nat.le_refl _)).symm.trans hHere)

theorem faultAt_append_iff (hIndex : index < before.length) :
    FaultAt (before ++ after) index violation ↔ FaultAt before index violation := by
  have hSame (place : Nat) (hPlace : place ≤ index) : (before ++ after)[place]? = before[place]? :=
    List.getElem?_append_left (Nat.lt_of_le_of_lt hPlace hIndex)
  constructor
  · exact FaultAt.congr hSame
  · exact FaultAt.congr fun place hPlace => (hSame place hPlace).symm

/-- The element after those of a scan is at fault exactly if it is not what the scan expects. -/
theorem faultAt_length_iff {expected : ElementKind} (hScan : scan .activity 0 before = .ok expected)
    (kind : Option ElementKind) :
    FaultAt (before ++ [kind]) before.length violation ↔
      scan expected before.length [kind] = .error violation := by
  obtain ⟨known, rfl, -, rfl⟩ := (scan_next_eq_ok_iff .leg 0 before expected).mp hScan
  rcases known.eq_nil_or_concat with rfl | ⟨rest, last, rfl⟩
  · constructor
    · intro h
      cases h <;> simp_all [scan, next, misplaced]
    · intro h
      rcases kind with _ | _ | _ <;> cases h
      · exact .unrecognizedElement rfl
      · exact .firstNotActivity rfl
  · have hLast : ((rest ++ [last]).map some ++ [kind])[rest.length]? = some (some last) := by simp
    have hHere : ((rest ++ [last]).map some ++ [kind])[rest.length + 1]? = some kind := by simp
    have hExpected : next ((rest ++ [last]).getLastD .leg) = next last := by simp
    have hLength : ((rest ++ [last]).map some).length = rest.length + 1 := by simp
    rw [List.concat_eq_append, hExpected, hLength]
    generalize (rest ++ [last]).map some ++ [kind] = kinds at hLast hHere
    constructor
    · intro h
      cases h with
      | unrecognizedElement hNone =>
          cases hHere.symm.trans hNone
          rfl
      | legAfterLeg hBefore hLeg =>
          cases hLast.symm.trans hBefore
          cases hHere.symm.trans hLeg
          rfl
      | activityAfterActivity hBefore hActivity =>
          cases hLast.symm.trans hBefore
          cases hHere.symm.trans hActivity
          rfl
    · intro h
      rcases kind with _ | _ | _ <;> cases last <;> cases h
      · exact .unrecognizedElement hHere
      · exact .unrecognizedElement hHere
      · exact .activityAfterActivity hLast hHere
      · exact .legAfterLeg hLast hHere

/-- A scan that goes through has met no fault, and one that does not has met the first. -/
theorem faults_of_scan (kinds : List (Option ElementKind)) :
    (∀ expected, scan .activity 0 kinds = .ok expected → Faultless kinds) ∧
      ∀ violation, scan .activity 0 kinds = .error violation →
        ∃ index, FirstFault kinds index violation := by
  induction kinds using List.reverseRecOn with
  | nil =>
      refine ⟨fun _ _ index violation hFault => ?_, nofun⟩
      cases hFault.lt_length
  | append_singleton before kind ih =>
      obtain ⟨hClean, hFaulty⟩ := ih
      cases hScan : scan .activity 0 before with
      | error found =>
          have hWhole : scan .activity 0 (before ++ [kind]) = .error found := by
            rw [scan_append, hScan]
            rfl
          rw [hWhole]
          refine ⟨nofun, ?_⟩
          rintro _ ⟨⟩
          obtain ⟨index, hFault, hFirst⟩ := hFaulty found hScan
          have hIndex := hFault.lt_length
          exact ⟨index, (faultAt_append_iff hIndex).mpr hFault, fun earlier hEarlier other hOther =>
            hFirst earlier hEarlier other ((faultAt_append_iff (hEarlier.trans hIndex)).mp hOther)⟩
      | ok expected =>
          have hWhole : scan .activity 0 (before ++ [kind]) =
              scan expected before.length [kind] := by
            rw [scan_append, hScan, Nat.zero_add]
            rfl
          have hBefore (earlier : Nat) (hEarlier : earlier < before.length) (other : Violation) :
              ¬FaultAt (before ++ [kind]) earlier other := fun hOther =>
            hClean expected hScan earlier other ((faultAt_append_iff hEarlier).mp hOther)
          rw [hWhole]
          constructor
          · intro next hNext index violation hFault
            have hIndex := hFault.lt_length
            rw [List.length_append, List.length_singleton] at hIndex
            rcases Nat.lt_or_eq_of_le (Nat.le_of_lt_succ hIndex) with hEarlier | rfl
            · exact hBefore index hEarlier violation hFault
            · cases hNext.symm.trans ((faultAt_length_iff hScan kind).mp hFault)
          · intro violation hError
            exact ⟨before.length, (faultAt_length_iff hScan kind).mpr hError, hBefore⟩

/-- A list has no fault exactly if all kinds are known, the first is no leg and they alternate. -/
theorem faultless_iff (kinds : List (Option ElementKind)) :
    Faultless kinds ↔
      none ∉ kinds ∧ kinds.head? ≠ some (some .leg) ∧ kinds.IsChain (· ≠ ·) := by
  constructor
  · intro h
    refine ⟨fun hNone => ?_, fun hLeg => ?_, ?_⟩
    · obtain ⟨index, hIndex⟩ := List.mem_iff_getElem?.mp hNone
      exact h _ _ (.unrecognizedElement hIndex)
    · rw [List.head?_eq_getElem?] at hLeg
      exact h _ _ (.firstNotActivity hLeg)
    · apply List.isChain_iff_getElem.mpr
      intro place hPlace hSame
      have hHere := List.getElem?_eq_getElem hPlace
      have hPrior := List.getElem?_eq_getElem (Nat.lt_of_succ_lt hPlace)
      rw [hSame] at hPrior
      rcases hKind : kinds[place + 1] with _ | _ | _ <;> rw [hKind] at hHere hPrior
      · exact h _ _ (.unrecognizedElement hHere)
      · exact h _ _ (.activityAfterActivity hPrior hHere)
      · exact h _ _ (.legAfterLeg hPrior hHere)
  · rintro ⟨hKnown, hFirst, hChain⟩ index violation hFault
    have hApart {place : Nat} {kind : Option ElementKind} (hPrior : kinds[place]? = some kind)
        (hHere : kinds[place + 1]? = some kind) : False := by
      obtain ⟨hPlace, hPrior⟩ := List.getElem?_eq_some_iff.mp hPrior
      obtain ⟨hNext, hHere⟩ := List.getElem?_eq_some_iff.mp hHere
      exact List.isChain_iff_getElem.mp hChain place hNext (hPrior.trans hHere.symm)
    cases hFault with
    | unrecognizedElement hHere => exact hKnown (List.mem_iff_getElem?.mpr ⟨_, hHere⟩)
    | firstNotActivity hHere => exact hFirst (List.head?_eq_getElem?.trans hHere)
    | legAfterLeg hPrior hHere => exact hApart hPrior hHere
    | activityAfterActivity hPrior hHere => exact hApart hPrior hHere

theorem FirstFault.unique {later : Nat} (h : FirstFault kinds index violation)
    (h' : FirstFault kinds later other) : violation = other := by
  rcases Nat.lt_trichotomy index later with hLess | rfl | hMore
  · exact absurd h.1 (h'.2 index hLess violation)
  · exact h.1.unique h'.1
  · exact absurd h'.1 (h.2 later hMore other)

/-- What a check has to say against a list of kinds. -/
def Cause (kinds : List (Option ElementKind)) (violation : Violation) : Prop :=
  violation = .empty ∧ kinds = [] ∨ (∃ index, FirstFault kinds index violation) ∨
    violation = .lastNotActivity ∧ Faultless kinds ∧ kinds.getLast? = some (some .leg)

/-- There is one thing to say against a list at most. -/
theorem Cause.unique (h : Cause kinds violation) (h' : Cause kinds other) : violation = other := by
  rcases h with ⟨rfl, rfl⟩ | ⟨index, hFault⟩ | ⟨rfl, hClean, hLast⟩
  · rcases h' with ⟨rfl, -⟩ | ⟨index, hFault⟩ | ⟨-, -, hLast⟩
    · rfl
    · cases hFault.1.lt_length
    · cases hLast
  · rcases h' with ⟨-, rfl⟩ | ⟨later, hLater⟩ | ⟨-, hClean, -⟩
    · cases hFault.1.lt_length
    · exact hFault.unique hLater
    · exact absurd hFault.1 (hClean _ _)
  · rcases h' with ⟨-, rfl⟩ | ⟨index, hFault⟩ | ⟨rfl, -⟩
    · cases hLast
    · exact absurd hFault.1 (hClean _ _)
    · rfl

theorem getLast?_of_scan (expected : ElementKind) (hPresent : kinds ≠ [])
    (hScan : scan .activity 0 kinds = .ok (next expected)) :
    kinds.getLast? = some (some expected) := by
  obtain ⟨known, rfl, -, hLast⟩ := (scan_next_eq_ok_iff .leg 0 kinds _).mp hScan
  rcases known.eq_nil_or_concat with rfl | ⟨rest, last, rfl⟩
  · exact absurd rfl hPresent
  · have hSame : expected = last := by
      rw [List.concat_eq_append, List.getLastD_concat] at hLast
      cases expected <;> cases last <;> simp_all [next]
    simp [hSame]

theorem not_cause (hClean : Faultless kinds) (hLast : kinds.getLast? = some (some .activity)) :
    ¬Cause kinds violation := by
  rintro (⟨-, rfl⟩ | ⟨index, hFault, -⟩ | ⟨-, -, hLeg⟩)
  · cases hLast
  · exact hClean index violation hFault
  · cases hLast.symm.trans hLeg

/-- What a check comes to. -/
theorem check_cause (kinds : List (Option ElementKind)) :
    (∃ violation, check kinds = .error violation ∧ Cause kinds violation) ∨
      check kinds = .ok () ∧ Faultless kinds ∧ kinds.getLast? = some (some .activity) := by
  by_cases hPresent : kinds = []
  · subst hPresent
    exact .inl ⟨.empty, rfl, .inl ⟨rfl, rfl⟩⟩
  · obtain ⟨hClean, hFaulty⟩ := faults_of_scan kinds
    rw [check, if_neg (by simpa using hPresent)]
    cases hScan : scan .activity 0 kinds with
    | error violation => exact .inl ⟨violation, rfl, .inr (.inl (hFaulty violation hScan))⟩
    | ok expected =>
        have hNone := hClean expected hScan
        cases expected with
        | activity =>
            exact .inl ⟨.lastNotActivity, rfl, .inr (.inr ⟨rfl, hNone,
              getLast?_of_scan .leg hPresent hScan⟩)⟩
        | leg =>
            exact .inr ⟨rfl, hNone, getLast?_of_scan .activity hPresent hScan⟩

end Faults

/-- A list passes the check exactly if it is there, its kinds are known and alternate, and it
begins and ends with an activity. Otherwise the check names the first fault from the front, and a
leg at the end only where no element is at fault. A check under a label reports what it names,
once. -/
theorem check_first_fault (kinds : List (Option ElementKind)) :
    (check kinds = .ok () ↔
        kinds ≠ [] ∧ none ∉ kinds ∧ kinds.head? = some (some .activity) ∧
          kinds.getLast? = some (some .activity) ∧ kinds.IsChain (· ≠ ·)) ∧
      (∀ violation, check kinds = .error violation ↔ Cause kinds violation) ∧
      ∀ (α : Type) (label : PlanLabel),
        let checked : Except Violation Unit × List (Notice α) := label.check kinds
        checked.1 = check kinds ∧ (checked.2 = [] ↔ check kinds = .ok ()) ∧
          ∀ violation, checked.2 = [.violation label violation] ↔
            check kinds = .error violation := by
  refine ⟨?passes, fun violation => ?fails, fun α label => ?reports⟩
  case passes =>
    constructor
    · intro hPasses
      obtain ⟨violation, hError, -⟩ | ⟨-, hClean, hLast⟩ := check_cause kinds
      · cases hPasses.symm.trans hError
      · obtain ⟨hKnown, hFirst, hChain⟩ := (faultless_iff kinds).mp hClean
        rcases kinds with _ | ⟨_ | _ | _, rest⟩
        · cases hLast
        · exact absurd List.mem_cons_self hKnown
        · exact ⟨List.cons_ne_nil _ _, hKnown, rfl, hLast, hChain⟩
        · exact absurd rfl hFirst
    · rintro ⟨-, hKnown, hFirst, hLast, hChain⟩
      have hClean : Faultless kinds :=
        (faultless_iff kinds).mpr ⟨hKnown, by simp [hFirst], hChain⟩
      obtain ⟨violation, -, hCause⟩ | ⟨hPasses, -⟩ := check_cause kinds
      · exact absurd hCause (not_cause hClean hLast)
      · exact hPasses
  case fails =>
    obtain ⟨found, hError, hCause⟩ | ⟨hPasses, hClean, hLast⟩ := check_cause kinds
    · rw [hError]
      constructor
      · rintro ⟨⟩
        exact hCause
      · intro hOther
        exact congrArg Except.error (hCause.unique hOther)
    · rw [hPasses]
      exact iff_of_false nofun (not_cause hClean hLast)
  case reports =>
    simp only [PlanLabel.check]
    cases check kinds <;> simp [eq_comm]

/-- An element that is not known comes too late to be named after a leg out of place. -/
example : check [some .activity, some .leg, some .leg, none] = .error (.legAfterLeg 2) := by decide

end Alternation

end DemandRide
