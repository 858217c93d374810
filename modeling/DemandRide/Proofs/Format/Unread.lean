import DemandRide.Format.Itinerary
import DemandRide.Number.Binary64
import DemandRide.Proofs.Itinerary.Alternation
import DemandRide.Proofs.Json.Record
import Mathlib.Data.List.Forall2

/-! Plans that are checked without being read. An element that is written as an object says its
kind in a member, which is all that the check looks at; an element that is written as an array
says it in its first item, where nobody looks. So a plan that could be read is found to be what
it is up to the first of its arrays, and there the check ends. Nothing is said about elements
that could not be read. -/
namespace DemandRide

open Json

variable {α : Type}

/-- Whether a value is written with names. -/
def Json.isObject : Json α → Bool
  | .obj _ => true
  | _ => false

/-- A list is read item by item. -/
theorem Json.toList?_arr_eq_some_iff {β : Type} {read : Json α → Option β}
    {items : List (Json α)} {bs : List β} :
    toList? read (.arr items) = some bs ↔
      List.Forall₂ (fun item b => read item = some b) items bs := by
  change items.mapM read = some bs ↔ _
  induction items generalizing bs with
  | nil => simp [eq_comm]
  | cons item rest ih =>
      rw [List.mapM_cons, List.forall₂_cons_left_iff]
      simp only [← ih, Option.bind_eq_bind, Option.bind_eq_some_iff, Option.pure_def,
        Option.some.injEq]
      constructor
      · rintro ⟨b, hItem, others, hRest, rfl⟩
        exact ⟨b, others, hItem, hRest, rfl⟩
      · rintro ⟨b, others, hItem, hRest, rfl⟩
        exact ⟨b, hItem, others, hRest, rfl⟩

namespace Element

variable [Scalar α]

theorem readable_of_ofJson? {json : Json α} {element : Element α}
    (h : ofJson? json = some element) : json.readable := by
  unfold ofJson? at h
  obtain ⟨_, hReadable, -⟩ := Option.bind_eq_some_iff.mp h
  simpa [guard] using hReadable

theorem kind_of_ofKind? {kind : ElementKind} {rest : Json α} {element : Element α}
    (h : ofKind? kind rest = some element) : element.kind = kind := by
  cases kind <;> obtain ⟨_, -, rfl⟩ := Option.map_eq_some_iff.mp h <;> rfl

/-- An element that can be read has the kind that it claims, if it is written with names, and
claims none otherwise. -/
theorem claimedKind?_of_ofJson? {json : Json α} {element : Element α}
    (h : ofJson? json = some element) :
    json.claimedKind? = if json.isObject then some element.kind else none := by
  cases json with
  | obj members =>
      simp only [ofJson?, guard, Option.bind_eq_bind] at h
      obtain ⟨_, -, h⟩ := Option.bind_eq_some_iff.mp h
      obtain ⟨_, hOnce, h⟩ := Option.bind_eq_some_iff.mp h
      obtain ⟨kind, hKind, hRest⟩ := Option.bind_eq_some_iff.mp h
      have hCount : occurrences "kind" members = 1 := by
        by_contra hCount
        rw [if_neg hCount] at hOnce
        cases hOnce
      rw [claimedKind?, last?_eq_lookup hCount.le, hKind, kind_of_ofKind? hRest]
      rfl
  | _ => rfl

end Element

namespace Plan

variable [Scalar α] {items : List (Json α)} {elements : List (Element α)}

/-- Where all elements are written with names, the kinds that they claim are their kinds. -/
theorem map_claimedKind?
    (h : List.Forall₂ (fun item element => Element.ofJson? item = some element) items elements)
    (hNamed : ∀ item ∈ items, item.isObject) :
    items.map claimedKind? = elements.map fun element => some element.kind := by
  induction h with
  | nil => rfl
  | @cons item element _ _ hItem _ ih =>
      obtain ⟨hFirst, hRest⟩ := List.forall_mem_cons.mp hNamed
      rw [List.map_cons, List.map_cons, Element.claimedKind?_of_ofJson? hItem, if_pos hFirst,
        ih hRest]

/-- Plans that can be read can be taken in unread. -/
theorem rawPlans?_of_ofJson? {plans : List (List (Json α))}
    (h : ∀ items ∈ plans, ∃ plan, ofJson? (.arr items) = some plan) :
    (Json.arr (plans.map .arr)).rawPlans? = some plans := by
  have hReadable : (Json.arr (plans.map .arr)).readable := by
    refine readableItems_iff.mpr (List.forall_mem_map.mpr fun items hItems => ?_)
    obtain ⟨plan, hPlan⟩ := h items hItems
    obtain ⟨elements, hElements, -⟩ := Option.map_eq_some_iff.mp hPlan
    have hItems := (toList?_arr_eq_some_iff.mp hElements).imp fun _ _ hItem =>
      And.intro (Element.readable_of_ofJson? hItem) hItem
    exact readableItems_iff.mpr ((List.forall₂_and_left _ _).mp hItems).1
  have hUnread : toList? (toList? some) (Json.arr (plans.map .arr)) = some plans := by
    rw [toList?_arr_eq_some_iff, List.forall₂_map_left_iff, List.forall₂_same]
    exact fun items _ => toList?_arr_eq_some_iff.mpr (List.forall₂_same.mpr fun _ _ => rfl)
  simp [rawPlans?, hReadable, hUnread]

/-- The check of a plan that is left unread says what the check of the read plan says, if all
elements are written with names. An element that is written as an array can be read but is of
neither kind to the check, which ends there unless a fault before it has ended it. -/
theorem check_unread {plan : Plan α} (hRead : ofJson? (.arr items) = some plan) :
    let unread := Alternation.check (items.map claimedKind?)
    (Json.arr [.arr items]).rawPlans? = some [items] ∧
    List.Forall₂ (fun item element =>
      item.claimedKind? = if item.isObject then some element.kind else none) items plan.elements ∧
    ((∀ item ∈ items, item.isObject) → unread = plan.check) ∧
    ∀ before item after, items = before ++ item :: after →
      (∀ earlier ∈ before, earlier.isObject) → item.isObject = false →
      (∃ violation index, violation.index? = some index ∧ index < before.length ∧
        plan.check = .error violation ∧ unread = .error violation) ∨
      (∀ violation index, violation.index? = some index → plan.check = .error violation →
        before.length ≤ index) ∧ unread = .error (.unrecognizedElement before.length) := by
  intro unread
  obtain ⟨elements, hElements, rfl⟩ := Option.map_eq_some_iff.mp hRead
  have hEach := toList?_arr_eq_some_iff.mp hElements
  refine ⟨rawPlans?_of_ofJson? (List.forall_mem_singleton.mpr ⟨_, hRead⟩),
    hEach.imp fun _ _ => Element.claimedKind?_of_ofJson?, fun hNamed => ?named, ?array⟩
  case named => rw [Plan.check, ← map_claimedKind? hEach hNamed]
  case array =>
    rintro before item after rfl hNamed hArray
    have hFirst := List.forall₂_take before.length hEach
    rw [List.take_left] at hFirst
    have hKinds : elements.map (fun element => some element.kind) =
        before.map claimedKind? ++
          (elements.drop before.length).map fun element => some element.kind := by
      rw [map_claimedKind? hFirst hNamed, ← List.map_append, List.take_append_drop]
    have hNone : claimedKind? item = none := by
      cases item with
      | obj members => cases hArray
      | _ => rfl
    have hCheck := Alternation.check_append_none (before.map claimedKind?)
      (after.map claimedKind?) ((elements.drop before.length).map fun element => some element.kind)
    rw [List.length_map] at hCheck
    simp only [unread, Plan.check, hKinds, List.map_append, List.map_cons, hNone]
    exact hCheck

end Plan

/-- A walk to work, its leg written as an array. -/
def mixedItems : List (Json Float) := [
  .obj [("kind", .str "activity"), ("type", .str "home"), ("location", .obj [("link", .str "a")])],
  .arr [.str "leg", .str "walk", .str "a", .str "b", .int 0, .int 60],
  .obj [("type", .str "work"), ("location", .arr [.str "b"]), ("kind", .str "activity")]]

def mixedPlan : Plan Float :=
  ⟨[.activity (.plain "home" (.onLink ⟨"a"⟩)), .leg (.plain "walk" ⟨"a"⟩ ⟨"b"⟩ 0 60),
    .activity (.plain "work" (.onLink ⟨"b"⟩))]⟩

/-- The walk to work is read and well formed, and its leg is not recognized unread. -/
theorem check_unread_mixed :
    Plan.ofJson? (.arr mixedItems) = some mixedPlan ∧ mixedPlan.check = .ok () ∧
    Alternation.check (mixedItems.map claimedKind?) = .error (.unrecognizedElement 1) := by
  have hRead : Plan.ofJson? (.arr mixedItems) = some mixedPlan := by rfl
  have hTyped : mixedPlan.check = .ok () := by decide
  obtain ⟨-, -, -, hArray⟩ := Plan.check_unread hRead
  rcases hArray [_] _ [_] rfl (List.forall_mem_singleton.mpr rfl) rfl with
    ⟨_, _, -, -, hFault, -⟩ | ⟨-, hUnread⟩
  · cases hTyped.symm.trans hFault
  · exact ⟨hRead, hTyped, hUnread⟩

/-- A plan is not always the same unread: at home all day, written as an array, is a plan. -/
theorem unread_not_as_read :
    ¬∀ (items : List (Json Float)) (plan : Plan Float), Plan.ofJson? (.arr items) = some plan →
      items.map claimedKind? = (plan.elements.map fun element => some element.kind) ∧
        Alternation.check (items.map claimedKind?) = plan.check := by
  intro hSame
  obtain ⟨-, hCheck⟩ := hSame [.arr [.str "activity", .str "home", .obj [("link", .str "a")]]]
    ⟨[.activity (.plain "home" (.onLink ⟨"a"⟩))]⟩ (by rfl)
  exact absurd hCheck (by decide)

end DemandRide
