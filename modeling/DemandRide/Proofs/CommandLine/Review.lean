import DemandRide.CommandLine
import DemandRide.Proofs.Format.Unread
import DemandRide.Proofs.Itinerary.FirstFault
import Mathlib.Data.List.Induction

/-! What the check of a file of plans finds. A plan passes if activities and legs take turns from
one activity to another. Every other plan is reported once, under its number and with its fault,
in the order of the file, and the check fails with how many there are. -/
namespace DemandRide

namespace Alternation

/-- Activities and legs in turn, an activity first and last. -/
inductive WellFormed : List (Option ElementKind) → Prop where
  | stay : WellFormed [some .activity]
  | depart {kinds : List (Option ElementKind)} (h : WellFormed kinds) :
      WellFormed (some .activity :: some .leg :: kinds)

theorem wellFormed_cons_cons_iff {first second : Option ElementKind}
    {rest : List (Option ElementKind)} :
    WellFormed (first :: second :: rest) ↔
      first = some .activity ∧ second = some .leg ∧ WellFormed rest := by
  constructor
  · rintro (_ | h)
    exact ⟨rfl, rfl, h⟩
  · rintro ⟨rfl, rfl, h⟩
    exact .depart h

/-- A scan that waits for an activity and ends waiting for a leg has gone over a whole plan. -/
theorem scan_eq_ok_leg_iff (kinds : List (Option ElementKind)) (index : Nat) :
    scan .activity index kinds = .ok .leg ↔ WellFormed kinds := by
  induction kinds using List.twoStepInduction generalizing index with
  | nil => exact iff_of_false nofun nofun
  | singleton kind =>
      rcases kind with _ | _ | _
      · exact iff_of_false nofun nofun
      · exact iff_of_true rfl .stay
      · exact iff_of_false nofun nofun
  | cons_cons first second rest ih _ =>
      rw [wellFormed_cons_cons_iff, ← ih (index + 2)]
      rcases first with _ | _ | _ <;> rcases second with _ | _ | _ <;>
        simp [scan, next]

theorem check_eq_ok_iff_wellFormed (kinds : List (Option ElementKind)) :
    check kinds = .ok () ↔ WellFormed kinds :=
  (check_eq_ok_iff_scan kinds).trans (scan_eq_ok_leg_iff kinds 0)

instance : DecidablePred WellFormed := fun kinds =>
  decidable_of_iff (check kinds = .ok ()) (check_eq_ok_iff_wellFormed kinds)

end Alternation

open Alternation

theorem Json.toList?_some_eq_some_iff {α : Type} {json : Json α} {items : List (Json α)} :
    toList? some json = some items ↔ json = .arr items := by
  cases json with
  | arr others =>
      simp only [toList?_arr_eq_some_iff, Option.some.injEq, List.forall₂_eq_eq_eq, arr.injEq]
  | _ => exact iff_of_false nofun nofun

theorem Json.toList?_toList?_eq_some_iff {α : Type} {json : Json α}
    {plans : List (List (Json α))} :
    toList? (toList? some) json = some plans ↔ json = .arr (plans.map .arr) := by
  cases json with
  | arr items =>
      simp only [toList?_arr_eq_some_iff, toList?_some_eq_some_iff, arr.injEq]
      rw [← List.forall₂_map_right_iff, List.forall₂_eq_eq_eq]
  | _ => exact iff_of_false nofun nofun

/-- Plans are taken in unread exactly if they are a list of lists with nothing unreadable. -/
theorem Json.rawPlans?_eq_some_iff {α : Type} {json : Json α} {plans : List (List (Json α))} :
    json.rawPlans? = some plans ↔
      json = .arr (plans.map .arr) ∧ ∀ plan ∈ plans, ∀ element ∈ plan, element.readable := by
  have hReadable : (Json.arr (plans.map .arr)).readable ↔
      ∀ plan ∈ plans, ∀ element ∈ plan, element.readable := by
    refine readableItems_iff.trans (List.forall_mem_map.trans ?_)
    exact forall₂_congr fun _ _ => readableItems_iff
  rw [← toList?_toList?_eq_some_iff]
  constructor
  · intro h
    obtain ⟨_, hGuard, hPlans⟩ := Option.bind_eq_some_iff.mp h
    obtain rfl := toList?_toList?_eq_some_iff.mp hPlans
    exact ⟨hPlans, hReadable.mp (by simpa [guard] using hGuard)⟩
  · rintro ⟨hPlans, hElements⟩
    obtain rfl := toList?_toList?_eq_some_iff.mp hPlans
    simp [rawPlans?, hReadable.mpr hElements, hPlans]

namespace CommandLine

/-- The kinds that the elements of plans claim. -/
def claimedKinds (plans : List (List (Json Float))) : List (List (Option ElementKind)) :=
  plans.map fun plan => plan.map Json.claimedKind?

theorem length_claimedKinds (plans : List (List (Json Float))) :
    (claimedKinds plans).length = plans.length :=
  List.length_map _

/-- The plans that are not well formed, with their numbers from `index` on. -/
def malformedFrom (index : Nat) (plans : List (List (Option ElementKind))) :
    List (List (Option ElementKind) × Nat) :=
  (plans.zipIdx index).filter fun plan => ¬WellFormed plan.1

/-- A report of a plan names its number and what is wrong with it. -/
def Reports (plan : List (Option ElementKind) × Nat) (report : PlanLabel × Violation) : Prop :=
  report.1 = .numbered plan.2 ∧ Cause plan.1 report.2

/-- A report as it is left. -/
def violationNotice (report : PlanLabel × Violation) : Notice Float :=
  .violation report.1 report.2

theorem review_cons (index : Nat) (plan : List (Option ElementKind))
    (rest : List (List (Option ElementKind))) :
    WellFormed plan ∧ review index (plan :: rest) = review (index + 1) rest ∨
      ¬WellFormed plan ∧ ∃ violation, Cause plan violation ∧
        review index (plan :: rest) =
          ((review (index + 1) rest).1 + 1,
            .violation (.numbered index) violation :: (review (index + 1) rest).2) := by
  rw [← check_eq_ok_iff_wellFormed]
  obtain ⟨violation, hError, hCause⟩ | ⟨hPasses, -, -⟩ := check_cause plan
  · refine .inr ⟨by simp [hError], violation, hCause, ?_⟩
    simp only [review, PlanLabel.check, hError]
    rfl
  · refine .inl ⟨hPasses, ?_⟩
    simp only [review, PlanLabel.check, hPasses]
    rfl

/-- A review of plans reports the malformed ones and counts them. -/
theorem exists_reports_of_review (index : Nat) (plans : List (List (Option ElementKind))) :
    ∃ reports, List.Forall₂ Reports (malformedFrom index plans) reports ∧
      review index plans = (reports.length, reports.map violationNotice) := by
  induction plans generalizing index with
  | nil => exact ⟨[], .nil, rfl⟩
  | cons plan rest ih =>
      obtain ⟨reports, hReports, hRest⟩ := ih (index + 1)
      rcases review_cons index plan rest with ⟨hPlan, hReview⟩ | ⟨hPlan, violation, hCause, hReview⟩
      · refine ⟨reports, ?_, hReview.trans hRest⟩
        rw [malformedFrom, List.zipIdx_cons, List.filter_cons_of_neg (by simpa using hPlan)]
        exact hReports
      · refine ⟨(.numbered index, violation) :: reports, ?_, ?_⟩
        · rw [malformedFrom, List.zipIdx_cons, List.filter_cons_of_pos (by simpa using hPlan)]
          exact .cons ⟨rfl, hCause⟩ hReports
        · rw [hReview, hRest]
          rfl

/-- Nothing is malformed exactly if every plan is well formed. -/
theorem malformedFrom_eq_nil_iff {index : Nat} {plans : List (List (Option ElementKind))} :
    malformedFrom index plans = [] ↔ ∀ plan ∈ plans, WellFormed plan := by
  have hPlans : (plans.zipIdx index).map Prod.fst = plans := List.zipIdx_map_fst index plans
  conv_rhs => rw [← hPlans]
  simp only [malformedFrom, List.filter_eq_nil_iff, List.forall_mem_map, decide_eq_true_eq,
    not_not]

namespace Tools

variable {tools : Tools}

/-- A text is read as a list of plans, each of them a list of values that can be taken in. -/
def ReadsPlans (tools : Tools) (text : String) (plans : List (List (Json Float))) : Prop :=
  tools.value? text = some (.arr (plans.map .arr)) ∧
    ∀ plan ∈ plans, ∀ element ∈ plan, element.readable

/-- A text is read as one list of plans at most. -/
theorem ReadsPlans.unique {text : String} {plans others : List (List (Json Float))}
    (h : tools.ReadsPlans text plans) (h' : tools.ReadsPlans text others) : plans = others :=
  List.map_injective_iff.mpr (fun _ _ => Json.arr.inj)
    (Json.arr.inj (Option.some.inj (h.1.symm.trans h'.1)))

variable {files : Files} {path : String}

theorem readPlans_eq_ok_iff {kinds : List (List (Option ElementKind))} :
    tools.readPlans files path = .ok kinds ↔
      ∃ text plans, files.content? path = some text ∧ tools.ReadsPlans text plans ∧
        claimedKinds plans = kinds := by
  have hRaw (text : String) (plans : List (List (Json Float))) :
      (tools.value? text).bind Json.rawPlans? = some plans ↔ tools.ReadsPlans text plans := by
    simp only [Option.bind_eq_some_iff, Json.rawPlans?_eq_some_iff, ReadsPlans]
    grind
  unfold readPlans
  split
  · rename_i hContent
    exact iff_of_false nofun fun ⟨_, _, hText, _⟩ => by cases hContent.symm.trans hText
  · rename_i text hContent
    split
    · rename_i hNone
      refine iff_of_false nofun ?_
      rintro ⟨other, plans, hText, hPlans, -⟩
      obtain rfl := Option.some.inj (hContent.symm.trans hText)
      cases hNone.symm.trans ((hRaw _ _).mpr hPlans)
    · rename_i plans hSome
      constructor
      · rintro ⟨⟩
        exact ⟨text, plans, hContent, (hRaw _ _).mp hSome, rfl⟩
      · rintro ⟨other, others, hText, hPlans, rfl⟩
        obtain rfl := Option.some.inj (hContent.symm.trans hText)
        obtain rfl := Option.some.inj (hSome.symm.trans ((hRaw _ _).mpr hPlans))
        rfl

/-- A file that does not hold plans is not checked. -/
theorem exists_failure_of_check
    (h : ∀ text plans, files.content? path = some text → ¬tools.ReadsPlans text plans) :
    ∃ failure, (tools.check files path).run () = ⟨.error failure, (), []⟩ := by
  cases hRead : tools.readPlans files path with
  | error failure => exact ⟨failure, by rw [check, hRead]; rfl⟩
  | ok kinds =>
      obtain ⟨text, plans, hText, hPlans, -⟩ := readPlans_eq_ok_iff.mp hRead
      exact absurd hPlans (h text plans hText)

/-- The check of a file that holds plans: the malformed ones are reported and counted, and it
fails if there are any. -/
theorem exists_reports_of_check {text : String} {plans : List (List (Json Float))}
    (hText : files.content? path = some text) (hPlans : tools.ReadsPlans text plans) :
    let malformed := malformedFrom 0 (claimedKinds plans)
    ∃ reports, List.Forall₂ Reports malformed reports ∧
      (tools.check files path).run () = {
        result := if malformed = [] then .ok .nothing
          else .error (.malformedPlans malformed.length plans.length)
        state := ()
        notices := reports.map violationNotice ++
          [.plansChecked plans.length malformed.length] } := by
  intro malformed
  obtain ⟨reports, hReports, hReview⟩ := exists_reports_of_review 0 (claimedKinds plans)
  have hRun : (tools.check files path).run () =
      (conclude (claimedKinds plans).length (reports.length, reports.map violationNotice)).run
        () := by
    rw [check, readPlans_eq_ok_iff.mpr ⟨text, plans, hText, hPlans, rfl⟩, ← hReview]
    rfl
  have hFailed : malformed.length = reports.length := hReports.length_eq
  refine ⟨reports, hReports, hRun.trans ?_⟩
  rw [conclude, length_claimedKinds, ← hFailed]
  simp only [List.length_pos_iff, ne_eq, ite_not]

end Tools

end CommandLine

end DemandRide
