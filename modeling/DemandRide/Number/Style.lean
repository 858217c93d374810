import DemandRide.Number.Shortest

/-! How numbers are spelled. Every text of a number has the fewest digits that read back;
the styles differ in when a number is written positionally, in how whole numbers and
exponents look, and in what stands for the values that have no digits. -/
namespace DemandRide

/-- The spelling of one kind of output. A number whose leading digit has the weight `10 ^ k`
is written positionally if `leastPositional ≤ k < mostPositional`, a missing bound allowing
all, and with an exponent otherwise. -/
structure NumberStyle where
  tie : Shortest.Tie
  leastPositional : Option Int
  mostPositional : Option Int
  /-- Whether whole numbers in positional form end in `.0`. -/
  wholeWithPoint : Bool
  /-- Whether a non-negative exponent is written with `+`. -/
  exponentPlus : Bool
  /-- What stands for an infinity or not-a-number, its sign given. -/
  nonFinite : (isNaN : Bool) → (isNegative : Bool) → String

namespace NumberStyle

/-- JSON documents: `3.0`, `1e+16`, `1e-6`; what has no digits is `null`. -/
def document : NumberStyle where
  tie := .even
  leastPositional := some (-5)
  mostPositional := some 16
  wholeWithPoint := true
  exponentPlus := true
  nonFinite _ _ := "null"

/-- The words for the numbers without digits in messages and log entries. -/
def nonFiniteWord (isNaN isNegative : Bool) : String :=
  if isNaN then "NaN" else if isNegative then "-inf" else "inf"

/-- Error messages: `3`, `0.5`, never an exponent. -/
def message : NumberStyle where
  tie := .up
  leastPositional := none
  mostPositional := none
  wholeWithPoint := false
  exponentPlus := false
  nonFinite := nonFiniteWord

/-- Log entries: `3.0`, `1e16`, `1e-6`. -/
def log : NumberStyle where
  tie := .up
  leastPositional := some (-4)
  mostPositional := some 16
  wholeWithPoint := true
  exponentPlus := false
  nonFinite := nonFiniteWord

/-- `digits * 10 ^ exponent` without an exponent mark. -/
def positional (style : NumberStyle) (digits : List Char) (exponent : Int) : List Char :=
  let point : Int := digits.length + exponent
  if 0 ≤ exponent then
    digits ++ List.replicate exponent.toNat '0' ++
      (if style.wholeWithPoint then ['.', '0'] else [])
  else if 0 < point then digits.take point.toNat ++ '.' :: digits.drop point.toNat
  else '0' :: '.' :: List.replicate (-point).toNat '0' ++ digits

/-- One digit, the rest of the digits after a point, and the weight of the first. -/
def scientific (style : NumberStyle) (digits : List Char) (leading : Int) : List Char :=
  let fraction := match digits.drop 1 with
    | [] => []
    | rest => '.' :: rest
  let sign := if leading < 0 then ['-'] else if style.exponentPlus then ['+'] else []
  digits.take 1 ++ fraction ++ 'e' :: sign ++ Nat.toDigits 10 leading.natAbs

/-- The digits of a magnitude in this style. -/
def spell (style : NumberStyle) (d : Shortest.Decimal) : List Char :=
  let digits := Nat.toDigits 10 d.digits
  let leading : Int := digits.length - 1 + d.exponent
  let tooSmall := style.leastPositional.any fun least => decide (leading < least)
  let tooLarge := style.mostPositional.any fun most => decide (most ≤ leading)
  if d.digits ≠ 0 ∧ (tooSmall ∨ tooLarge) then style.scientific digits leading
  else style.positional digits d.exponent

/-- The text of `x` in this style. A negative zero keeps its sign. -/
def text (style : NumberStyle) (x : Float) : String :=
  match Shortest.ofFloat? style.tie x with
  | none => style.nonFinite (Scalar.isNaN x) (Binary64.isNegative x)
  | some d => String.ofList ((if Binary64.isNegative x then ['-'] else []) ++ style.spell d)

end NumberStyle

end DemandRide
