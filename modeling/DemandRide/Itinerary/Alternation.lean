import DemandRide.Itinerary.Trip

/-! The structure of plans: activities and legs alternate, and a plan begins and ends with an
activity. Only the kinds of the elements matter, so a plan is checked as the list of their
kinds, with `none` for an element that is of neither kind. Violations are found from the
front and never repaired. -/
namespace DemandRide

/-- The first fault of a plan. -/
inductive Violation where
  | empty
  | firstNotActivity
  | activityAfterActivity (index : Nat)
  | legAfterLeg (index : Nat)
  | lastNotActivity
  | unrecognizedElement (index : Nat)
deriving DecidableEq, Repr

def Violation.message : Violation → String
  | .empty => "plan is empty"
  | .firstNotActivity => "plan starts with a leg"
  | .activityAfterActivity index =>
    "activity at index " ++ toString index ++ " follows another activity"
  | .legAfterLeg index => "leg at index " ++ toString index ++ " follows another leg"
  | .lastNotActivity => "plan ends with a leg"
  | .unrecognizedElement index =>
    "element at index " ++ toString index ++ " is neither an activity nor a leg"

namespace Alternation

/-- The kind that has to follow. -/
def next : ElementKind → ElementKind
  | .activity => .leg
  | .leg => .activity

/-- The fault of an element of kind `found` at `index`. -/
def misplaced (found : ElementKind) (index : Nat) : Violation :=
  match found, index with
  | .activity, index => .activityAfterActivity index
  | .leg, 0 => .firstNotActivity
  | .leg, index => .legAfterLeg index

/-- Go through the kinds from `index` on, and return the kind that would have to come after
the last. -/
def scan (expected : ElementKind) (index : Nat) :
    List (Option ElementKind) → Except Violation ElementKind
  | [] => .ok expected
  | none :: _ => .error (.unrecognizedElement index)
  | some found :: rest =>
    if found = expected then scan (next found) (index + 1) rest
    else .error (misplaced found index)

/-- Check a list of kinds from the front. -/
def check (kinds : List (Option ElementKind)) : Except Violation Unit :=
  if kinds.isEmpty then .error .empty
  else
    match scan .activity 0 kinds with
    | .error violation => .error violation
    | .ok .leg => .ok ()
    | .ok .activity => .error .lastNotActivity

end Alternation

/-- Check a plan whose elements are known to be of either kind. -/
def Plan.check {α : Type} (plan : Plan α) : Except Violation Unit :=
  Alternation.check (plan.elements.map fun element => some element.kind)

end DemandRide
