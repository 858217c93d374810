import Std.Data.TreeMap

/-! Identifiers of the things a network and its service are made of. An identifier of one
kind is never taken for one of another, and identifiers are ordered by the code points of
their texts. -/
namespace DemandRide

inductive IdKind where
  | link
  | node
  | stop
  | traveller
deriving DecidableEq, Repr

/-- The name of a thing of the given kind. -/
structure Id (kind : IdKind) where
  text : String
deriving DecidableEq, Repr

abbrev LinkId := Id .link
abbrev NodeId := Id .node
abbrev StopId := Id .stop
abbrev TravellerId := Id .traveller

namespace Id

variable {kind : IdKind}

instance : Ord (Id kind) := ⟨fun a b => compare a.text b.text⟩

theorem compare_eq (a b : Id kind) : compare a b = compare a.text b.text := rfl

instance : Std.TransOrd (Id kind) where
  eq_swap {a b} := by
    simpa only [compare_eq] using Std.OrientedOrd.eq_swap (α := String)
  isLE_trans {a b c} hab hbc := by
    simp only [compare_eq] at *
    exact Std.TransOrd.isLE_trans hab hbc

instance : Std.LawfulEqOrd (Id kind) where
  eq_of_compare {a b} h := by
    have hText : compare a.text b.text = .eq := h
    cases a
    cases b
    exact congrArg Id.mk (Std.LawfulEqOrd.eq_of_compare hText)

end Id

/-- What an identifier is called in log entries. -/
def IdKind.label : IdKind → String
  | .link => "LinkId"
  | .node => "NodeId"
  | .stop => "StopId"
  | .traveller => "TravellerId"

/-- An identifier with its kind, as in `StopId(a)`. -/
def Id.describe {kind : IdKind} (id : Id kind) : String := kind.label ++ "(" ++ id.text ++ ")"

end DemandRide
