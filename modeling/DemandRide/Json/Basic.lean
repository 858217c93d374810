import DemandRide.Number.Scalar

/-! JSON values as they are written: the members of an object in the order of the text,
repeated names included. Whole numbers of up to 64 bits are told apart from other numbers,
since a count has to be written as one. A value that is well formed but cannot be taken in (a
number too large, a string with half a surrogate pair, an array or object nested too deep) is
kept as `unreadable`: it does no harm where nobody looks at it. -/
namespace DemandRide

inductive Json (α : Type) where
  | null
  | bool (value : Bool)
  | int (value : Int)
  | real (value : α)
  | str (value : String)
  | arr (items : List (Json α))
  | obj (members : List (String × Json α))
  | unreadable
deriving Inhabited, Repr

namespace Json

variable {α : Type}

mutual

/-- Whether nothing in the value is unreadable. -/
def readable : Json α → Bool
  | .unreadable => false
  | .arr items => readableItems items
  | .obj members => readableMembers members
  | _ => true

def readableItems : List (Json α) → Bool
  | [] => true
  | item :: rest => item.readable && readableItems rest

def readableMembers : List (String × Json α) → Bool
  | [] => true
  | (_, value) :: rest => value.readable && readableMembers rest

end

/-- How many members of an object have this name. -/
def occurrences (name : String) (members : List (String × Json α)) : Nat :=
  (members.filter fun entry => entry.1 == name).length

/-- The value of the last member of this name. -/
def last? (name : String) (members : List (String × Json α)) : Option (Json α) :=
  members.reverse.lookup name

/-- A number, with `null` for one that has no digits. -/
def number [Scalar α] (x : α) : Json α := if Scalar.isFinite x then .real x else .null

/-- The members that are there. -/
def object (members : List (String × Option (Json α))) : Json α :=
  .obj (members.filterMap fun entry => entry.2.map fun value => (entry.1, value))

end Json

end DemandRide
