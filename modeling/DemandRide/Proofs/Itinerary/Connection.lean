import DemandRide.Itinerary.Trip
import Mathlib.Data.List.Chain

/-! Elements that follow each other in space. A leg is entered from its first link and left on
its last, an activity is entered and left where it takes place. Only links are compared: two
elements on one link may still be apart on it. -/
namespace DemandRide

variable {α : Type}

namespace Element

/-- The link an element is entered from. -/
def entry : Element α → LinkId
  | .leg l => l.startLink
  | .activity a => a.location.link

/-- The link an element is left on. -/
def exit : Element α → LinkId
  | .leg l => l.endLink
  | .activity a => a.location.link

end Element

/-- The way from one link to another: the first element is entered from the one, the last is
left on the other, and each is entered where the one before it was left. There is at least one
element, also on the way from a link to itself. -/
structure Connected (origin destination : LinkId) (elements : List (Element α)) : Prop where
  begins : elements.head?.map Element.entry = some origin
  ends : elements.getLast?.map Element.exit = some destination
  chains : elements.IsChain fun before after => before.exit = after.entry

/-- The same along the list, where no element leads from a link to itself. -/
def Leads (origin destination : LinkId) : List (Element α) → Prop
  | [] => origin = destination
  | element :: rest => element.entry = origin ∧ Leads element.exit destination rest

/-- Where the elements of a way are entered is where the way begins. -/
theorem leads_cons_iff_chains {destination : LinkId} (element : Element α)
    (rest : List (Element α)) :
    Leads element.exit destination rest ↔
      (element :: rest).getLast?.map Element.exit = some destination ∧
        (element :: rest).IsChain fun before after => before.exit = after.entry := by
  induction rest generalizing element with
  | nil => simp [Leads]
  | cons next rest ih =>
      rw [Leads, ih next, List.isChain_cons_cons, List.getLast?_cons_cons]
      constructor
      · rintro ⟨hEntry, hEnds, hChains⟩
        exact ⟨hEnds, hEntry.symm, hChains⟩
      · rintro ⟨hEnds, hEntry, hChains⟩
        exact ⟨hEntry.symm, hEnds, hChains⟩

theorem connected_iff_leads {origin destination : LinkId} {elements : List (Element α)} :
    Connected origin destination elements ↔
      elements ≠ [] ∧ Leads origin destination elements := by
  cases elements with
  | nil =>
      refine iff_of_false (fun h => ?_) fun h => h.1 rfl
      cases h.begins
  | cons element rest =>
      rw [Leads, leads_cons_iff_chains]
      constructor
      · rintro ⟨hBegins, hEnds, hChains⟩
        exact ⟨List.cons_ne_nil _ _, Option.some.inj hBegins, hEnds, hChains⟩
      · rintro ⟨-, rfl, hEnds, hChains⟩
        exact ⟨rfl, hEnds, hChains⟩

/-- Ways are put together at a link. -/
theorem Leads.append {origin middle destination : LinkId} {before after : List (Element α)}
    (hBefore : Leads origin middle before) (hAfter : Leads middle destination after) :
    Leads origin destination (before ++ after) := by
  induction before generalizing origin with
  | nil =>
      cases hBefore
      exact hAfter
  | cons element rest ih =>
      obtain ⟨hEntry, hRest⟩ := hBefore
      exact ⟨hEntry, ih hRest⟩

/-- A change of legs that keeps their links keeps the way. -/
theorem Leads.map_mapLeg {origin destination : LinkId} {elements : List (Element α)}
    {change : Leg α → Leg α} (hStart : ∀ leg, (change leg).startLink = leg.startLink)
    (hEnd : ∀ leg, (change leg).endLink = leg.endLink) (h : Leads origin destination elements) :
    Leads origin destination (elements.map (Element.mapLeg change)) := by
  have hLinks (element : Element α) : (element.mapLeg change).entry = element.entry ∧
      (element.mapLeg change).exit = element.exit := by
    cases element with
    | activity activity => exact ⟨rfl, rfl⟩
    | leg leg => exact ⟨hStart leg, hEnd leg⟩
  induction elements generalizing origin with
  | nil => exact h
  | cons element rest ih =>
      obtain ⟨hEntry, hRest⟩ := h
      obtain ⟨hSameEntry, hSameExit⟩ := hLinks element
      refine ⟨hSameEntry.trans hEntry, ?_⟩
      rw [hSameExit]
      exact ih hRest

end DemandRide
