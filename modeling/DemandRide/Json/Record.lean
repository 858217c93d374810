import DemandRide.Json.Basic

/-! Records in JSON. A record is written as an object, whose unknown members are passed over
and whose known ones stand at most once, or as an array of its fields in order, from which
fields may be missing at the end. Either way it is read as a function from the names of its
fields to what is written for them. Readers answer `none` for a value that is not of the form
they read. -/
namespace DemandRide.Json

variable {α β : Type}

/-- What is written for each field of a record with these field names. -/
def fields? (names : List String) : Json α → Option (String → Option (Json α))
  | .obj members =>
    if names.all fun name => decide (occurrences name members ≤ 1) then
      some fun name => members.lookup name
    else none
  | .arr items =>
    if items.length ≤ names.length then some fun name => (names.zip items).lookup name else none
  | _ => none

/-- A field that has to be written. -/
def required (read : Json α → Option β) (field : Option (Json α)) : Option β := field.bind read

/-- A field with a default; `null` does not stand for the default. -/
def withDefault (default : β) (read : Json α → Option β) (field : Option (Json α)) : Option β :=
  match field with
  | none => some default
  | some json => read json

/-- A field that may be absent, for which `null` may be written. -/
def optional (read : Json α → Option β) (field : Option (Json α)) : Option (Option β) :=
  match field with
  | none => some none
  | some .null => some none
  | some json => (read json).map some

def toBool? : Json α → Option Bool
  | .bool value => some value
  | _ => none

def toText? : Json α → Option String
  | .str value => some value
  | _ => none

/-- A whole number that is not negative and was written without point and exponent. -/
def toNat? : Json α → Option Nat
  | .int (.ofNat value) => some value
  | _ => none

/-- A number; whole numbers are numbers. -/
def toNumber? [Scalar α] : Json α → Option α
  | .int (.ofNat value) => some (Scalar.ofNat value)
  | .int (.negSucc value) => some (-Scalar.ofNat (value + 1))
  | .real value => some value
  | _ => none

/-- An array whose items are all of one form. -/
def toList? (read : Json α → Option β) : Json α → Option (List β)
  | .arr items => items.mapM read
  | _ => none

end DemandRide.Json
