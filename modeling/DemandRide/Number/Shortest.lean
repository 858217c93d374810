import DemandRide.Number.Binary64

/-! The fewest decimal digits that read back as a given double, and of the decimals with that
many digits the one nearest to it. The double stands for the interval of reals that round to
it, ends included exactly if its significand is even. If a point of a decimal grid lies in
that interval, so does one of the two grid points next to the double, hence looking at those
two on finer and finer grids finds the shortest decimal. All of it is exact arithmetic on
natural numbers. -/
namespace DemandRide.Shortest

/-- Which of two equally near decimals is taken. -/
inductive Tie where
  /-- The one whose last digit is even. -/
  | even
  /-- The larger one. -/
  | up
deriving DecidableEq, Repr

/-- The decimal `digits * 10 ^ exponent`. -/
structure Decimal where
  digits : Nat
  exponent : Int
deriving DecidableEq, Repr

/-- A positive double `significand * 2 ^ exponent` with its neighbourhood in quarters of its
last place: everything between `low` and `high` rounds to it, and `closed` says whether the
ends do. -/
structure Interval where
  low : Nat
  middle : Nat
  high : Nat
  exponent : Int
  closed : Bool
deriving DecidableEq, Repr

/-- The interval that rounds to `significand * 2 ^ exponent`. Below a power of two the doubles
are twice as dense, except at the least exponent. -/
def Interval.ofParts (significand : Nat) (exponent : Int) : Interval where
  low := if significand = Nat.pow 2 52 ∧ -1074 < exponent then 4 * significand - 1
    else 4 * significand - 2
  middle := 4 * significand
  high := 4 * significand + 2
  exponent := exponent - 2
  closed := significand % 2 = 0

/-- The grid of multiples of `10 ^ place`, over the unit of an interval: `numerator /
denominator` is the unit in steps of the grid. -/
structure Grid where
  place : Int
  numerator : Nat
  denominator : Nat
deriving DecidableEq, Repr

def Interval.grid (interval : Interval) (place : Int) : Grid where
  place := place
  numerator := Nat.pow 2 interval.exponent.toNat * Nat.pow 10 (-place).toNat
  denominator := Nat.pow 2 (-interval.exponent).toNat * Nat.pow 10 place.toNat

/-- Whether the `steps`-th point of the grid rounds to the double. -/
def Interval.holds (interval : Interval) (grid : Grid) (steps : Nat) : Bool :=
  let point := steps * grid.denominator
  let low := interval.low * grid.numerator
  let high := interval.high * grid.numerator
  if interval.closed then decide (low ≤ point ∧ point ≤ high)
  else decide (low < point ∧ point < high)

/-- The nearest grid point that rounds to the double, if there is one. -/
def Interval.nearest? (interval : Interval) (tie : Tie) (grid : Grid) : Option Nat :=
  let value := interval.middle * grid.numerator
  let below := value / grid.denominator
  let above := below + 1
  let toBelow := value - below * grid.denominator
  let toAbove := above * grid.denominator - value
  match interval.holds grid below, interval.holds grid above with
  | false, false => none
  | true, false => some below
  | false, true => some above
  | true, true =>
    if toBelow < toAbove then some below
    else if toAbove < toBelow then some above
    else match tie with
      | .up => some above
      | .even => if below % 2 = 0 then some below else some above

/-- The number of decimal digits of `n`, at least one. -/
def digitCount (n : Nat) : Nat := (Nat.toDigits 10 n).length

/-- The power of ten that the value of an interval reaches: `10 ^ k` is at most the value and
`10 ^ (k + 1)` is greater. -/
def Interval.magnitude (interval : Interval) : Int :=
  let unit := interval.grid 0
  let value := interval.middle * unit.numerator
  if unit.denominator ≤ value then digitCount (value / unit.denominator) - 1
  else
    let estimate : Int := digitCount value - digitCount unit.denominator
    let reached := value * Nat.pow 10 (-estimate).toNat
    if unit.denominator ≤ reached then estimate else estimate - 1

/-- A decimal without trailing zeros. The fuel bounds the number of zeros taken off. -/
def trim : Nat → Decimal → Decimal
  | 0, d => d
  | fuel + 1, d =>
    if d.digits % 10 = 0 ∧ d.digits ≠ 0 then trim fuel ⟨d.digits / 10, d.exponent + 1⟩ else d

/-- Try grids of one, two, … digits. Seventeen digits always suffice. -/
def Interval.search (interval : Interval) (tie : Tie) (place : Int) : Nat → Decimal
  | 0 => ⟨interval.middle, 0⟩
  | fuel + 1 =>
    match interval.nearest? tie (interval.grid place) with
    | some digits => trim 20 ⟨digits, place⟩
    | none => interval.search tie (place - 1) fuel

/-- The shortest decimal that reads back as the positive double `significand * 2 ^ exponent`. -/
def ofParts (tie : Tie) (significand : Nat) (exponent : Int) : Decimal :=
  let interval := Interval.ofParts significand exponent
  interval.search tie interval.magnitude 18

/-- The shortest decimal that reads back as the magnitude of a finite double; zero has no
digits but `0`. -/
def ofFloat? (tie : Tie) (x : Float) : Option Decimal :=
  (Binary64.dyadic? x).map fun d =>
    if d.significand = 0 then ⟨0, 0⟩ else ofParts tie d.significand.natAbs d.exponent

end DemandRide.Shortest
