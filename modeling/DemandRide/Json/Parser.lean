import DemandRide.Json.Basic
import DemandRide.Number.Binary64
import DemandRide.Text.Hex

/-! Reading JSON texts. Each reader takes the characters that are left and hands back what
remains after the longest text it can take. Texts that break the grammar have no value at
all; a text that keeps it but asks for something that cannot be represented has a value with
an unreadable part. The fuel is an upper bound on the steps and is computed from the length
of the text. -/
namespace DemandRide.Json

/-- The deepest nesting of arrays and objects that can be taken in. -/
def depthLimit : Nat := 127

namespace Parser

def skipBlank (cs : List Char) : List Char :=
  cs.dropWhile fun c => c == ' ' || c == '\t' || c == '\n' || c == '\r'

/-- The code unit written by four hexadecimal digits. -/
def codeUnit? (a b c d : Char) : Option Nat := do
  let a ← Text.hexDigit? a
  let b ← Text.hexDigit? b
  let c ← Text.hexDigit? c
  let d ← Text.hexDigit? d
  return ((a * 16 + b) * 16 + c) * 16 + d

def isHighSurrogate (unit : Nat) : Bool := decide (0xD800 ≤ unit ∧ unit < 0xDC00)

def isLowSurrogate (unit : Nat) : Bool := decide (0xDC00 ≤ unit ∧ unit < 0xE000)

/-- The character of a surrogate pair. -/
def ofPair (high low : Nat) : Char :=
  Char.ofNat (0x10000 + (high - 0xD800) * 0x400 + (low - 0xDC00))

/-- What a backslash and one more character stand for. -/
def escaped? : Char → Option Char
  | '"' => some '"'
  | '\\' => some '\\'
  | '/' => some '/'
  | 'b' => some '\x08'
  | 'f' => some '\x0c'
  | 'n' => some '\n'
  | 'r' => some '\r'
  | 't' => some '\t'
  | _ => none

/-- The low half of a surrogate pair that follows at once, and what comes after it. -/
def lowHalf? : List Char → Option (Nat × List Char)
  | '\\' :: 'u' :: a :: b :: c :: d :: rest =>
    match codeUnit? a b c d with
    | some unit => if isLowSurrogate unit then some (unit, rest) else none
    | none => none
  | _ => none

/-- The characters of a string up to its closing quote, collected backwards; `none` as its
content if half a surrogate pair stands in it. -/
def stringRest : Nat → Option (List Char) → List Char → Option (Option String × List Char)
  | 0, _, _ => none
  | _ + 1, taken, '"' :: rest => some (taken.map fun cs => String.ofList cs.reverse, rest)
  | fuel + 1, taken, '\\' :: 'u' :: a :: b :: c :: d :: rest =>
    match codeUnit? a b c d with
    | none => none
    | some unit =>
      if isHighSurrogate unit then
        match lowHalf? rest with
        | some (low, rest) => stringRest fuel (taken.map (ofPair unit low :: ·)) rest
        | none => stringRest fuel none rest
      else if isLowSurrogate unit then stringRest fuel none rest
      else stringRest fuel (taken.map (Char.ofNat unit :: ·)) rest
  | fuel + 1, taken, '\\' :: c :: rest =>
    match escaped? c with
    | some c => stringRest fuel (taken.map (c :: ·)) rest
    | none => none
  | fuel + 1, taken, c :: rest =>
    if c.toNat < 0x20 then none else stringRest fuel (taken.map (c :: ·)) rest
  | _ + 1, _, [] => none

/-- The content of a string whose opening quote has been taken, and what remains. -/
def string (cs : List Char) : Option (Option String × List Char) :=
  stringRest (cs.length + 1) (some []) cs

/-- The number that a list of decimal digits writes. -/
def natOfDigits (cs : List Char) : Nat :=
  cs.foldl (fun n c => 10 * n + (c.toNat - '0'.toNat)) 0

/-- At least one digit. -/
def digits? (cs : List Char) : Option (List Char × List Char) :=
  match cs.takeWhile Char.isDigit with
  | [] => none
  | taken => some (taken, cs.dropWhile Char.isDigit)

/-- The whole part of a number: a zero that stands alone, or digits without a leading zero. -/
def wholePart? : List Char → Option (List Char × List Char)
  | '0' :: rest => some (['0'], rest)
  | cs => digits? cs

/-- The digits after the point; none if there is no point. -/
def fractionPart? : List Char → Option (List Char × List Char)
  | '.' :: rest => digits? rest
  | cs => some ([], cs)

/-- The exponent; `none` as its value if there is no exponent mark. -/
def exponentPart? : List Char → Option (Option Int × List Char)
  | c :: rest =>
    if c == 'e' || c == 'E' then
      let (negative, rest) := match rest with
        | '-' :: rest => (true, rest)
        | '+' :: rest => (false, rest)
        | rest => (false, rest)
      (digits? rest).map fun (taken, rest) =>
        let size : Int := natOfDigits taken
        (some (if negative then -size else size), rest)
    else some (none, c :: rest)
  | [] => some (none, [])

/-- The number that leading digits write after those of `taken`, as many of them as keep it within
64 bits, and how many digits are left over. -/
def leading (taken : Nat) : List Char → Nat × Nat
  | [] => (taken, 0)
  | c :: rest =>
    let next := 10 * taken + (c.toNat - '0'.toNat)
    if next < Nat.pow 2 64 then leading next rest else (taken, rest.length + 1)

/-- The double nearest to `10 ^ places`. -/
def power (places : Nat) : Float := Float.ofScientific 1 false places

/-- The largest power of ten that a double can hold. -/
def powerLimit : Nat := 308

/-- Division by the largest power time and again, until nothing is left of the number. -/
def lowered : Nat → Float → Float
  | 0, x => x
  | times + 1, x => if x == 0 then x else lowered times (x / power powerLimit)

/-- A significand times a power of ten, if the doubles reach that far. The significand is rounded
before it is multiplied or divided, and the result is rounded again. -/
def scaled? (significand : Nat) (exponent : Int) : Option Float :=
  let x := Float.ofNat significand
  let places := exponent.natAbs
  if exponent < 0 then
    let times := (places - 1) / powerLimit
    some (lowered times x / power (places - powerLimit * times))
  else if places ≤ powerLimit then
    let product := x * power places
    if Scalar.isFinite product then some product else none
  else if significand = 0 then some x
  else none

/-- The double that a decimal stands for, if the doubles reach that far. Whole digits that are left
over raise the exponent; digits of the fraction that are left over are not looked at. -/
def decimal? (whole fraction : List Char) (exponent : Int) : Option Float :=
  let (significand, raised) := leading 0 whole
  let (significand, ignored) := leading significand fraction
  scaled? significand (exponent + raised - (fraction.length - ignored))

/-- Whether a whole number stays one: it fits into 64 bits, as a signed number if it has a
sign, and is not a negative zero. -/
def staysWhole (negative : Bool) (digits : Nat) : Bool :=
  if negative then decide (0 < digits ∧ digits ≤ Nat.pow 2 63)
  else decide (digits < Nat.pow 2 64)

/-- A number. Whole numbers without point and exponent stay whole while they fit; all others
become doubles, and those beyond the doubles are unreadable. -/
def number (cs : List Char) : Option (Json Float × List Char) := do
  let (negative, cs) := match cs with
    | '-' :: rest => (true, rest)
    | cs => (false, cs)
  let (whole, cs) ← wholePart? cs
  let (fraction, cs) ← fractionPart? cs
  let (exponent, cs) ← exponentPart? cs
  let digits := natOfDigits whole
  if fraction.isEmpty && exponent.isNone && staysWhole negative digits then
    return (.int (if negative then -digits else digits), cs)
  else
    let read (size : Float) : Json Float := .real (if negative then -size else size)
    return (((decimal? whole fraction (exponent.getD 0)).map read).getD .unreadable, cs)

/-- A container, unreadable if it is nested too deep. -/
def nested (depth : Nat) (container : Json Float) : Json Float :=
  if depth ≤ depthLimit then container else .unreadable

mutual

/-- A value inside `depth` arrays and objects. -/
def value : (fuel depth : Nat) → List Char → Option (Json Float × List Char)
  | 0, _, _ => none
  | fuel + 1, depth, cs =>
    match skipBlank cs with
    | 'n' :: 'u' :: 'l' :: 'l' :: rest => some (.null, rest)
    | 't' :: 'r' :: 'u' :: 'e' :: rest => some (.bool true, rest)
    | 'f' :: 'a' :: 'l' :: 's' :: 'e' :: rest => some (.bool false, rest)
    | '"' :: rest =>
      (string rest).map fun (content, rest) => ((content.map Json.str).getD .unreadable, rest)
    | '[' :: rest =>
      match skipBlank rest with
      | ']' :: rest => some (nested (depth + 1) (.arr []), rest)
      | rest =>
        (items fuel (depth + 1) [] rest).map fun (found, rest) =>
          (nested (depth + 1) (.arr found), rest)
    | '{' :: rest =>
      match skipBlank rest with
      | '}' :: rest => some (nested (depth + 1) (.obj []), rest)
      | rest =>
        (members fuel (depth + 1) (some []) rest).map fun (found, rest) =>
          ((found.map fun found => nested (depth + 1) (.obj found)).getD .unreadable, rest)
    | c :: rest => if c == '-' || c.isDigit then number (c :: rest) else none
    | [] => none

/-- The items of an array from the next one on, up to the closing bracket. -/
def items : (fuel depth : Nat) → List (Json Float) → List Char →
    Option (List (Json Float) × List Char)
  | 0, _, _, _ => none
  | fuel + 1, depth, found, cs =>
    match value fuel depth cs with
    | none => none
    | some (item, rest) =>
      match skipBlank rest with
      | ',' :: rest => items fuel depth (item :: found) rest
      | ']' :: rest => some ((item :: found).reverse, rest)
      | _ => none

/-- The members of an object from the next one on, up to the closing brace; `none` as their
list if the name of one of them is unreadable. -/
def members : (fuel depth : Nat) → Option (List (String × Json Float)) → List Char →
    Option (Option (List (String × Json Float)) × List Char)
  | 0, _, _, _ => none
  | fuel + 1, depth, found, cs =>
    match skipBlank cs with
    | '"' :: rest =>
      match string rest with
      | none => none
      | some (name, rest) =>
        match skipBlank rest with
        | ':' :: rest =>
          match value fuel depth rest with
          | none => none
          | some (content, rest) =>
            let found := match found, name with
              | some found, some name => some ((name, content) :: found)
              | _, _ => none
            match skipBlank rest with
            | ',' :: rest => members fuel depth found rest
            | '}' :: rest => some (found.map List.reverse, rest)
            | _ => none
        | _ => none
    | _ => none

end

end Parser

/-- The value of a text that holds one value and blanks around it. -/
def parse? (text : String) : Option (Json Float) :=
  let cs := text.toList
  match Parser.value (2 * cs.length + 2) 0 cs with
  | some (found, rest) => if (Parser.skipBlank rest).isEmpty then some found else none
  | none => none

end DemandRide.Json
