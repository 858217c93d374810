import DemandRide.Number.Binary64

/-! Rounded results of doubles together with what rounding took away. Sums and differences
lose nothing between the two parts unless they overflow; a product loses nothing unless it
overflows, has a factor too large to be halved, or has an error too small for a double. -/
namespace DemandRide.Binary64

/-- A rounded result and the rest that is to be added to it. -/
structure Rounded where
  value : Float
  error : Float

namespace Rounded

def sum (a b : Float) : Rounded :=
  let value := a + b
  let fromB := value - a
  let fromA := value - fromB
  ⟨value, (b - fromB) + (a - fromA)⟩

def difference (a b : Float) : Rounded := sum a (-b)

/-- A double as the sum of two of 26 binary digits. -/
def halves (a : Float) : Float × Float :=
  let scaled := 134217729 * a
  let high := scaled - (scaled - a)
  (high, a - high)

def product (a b : Float) : Rounded :=
  let value := a * b
  let (aHigh, aLow) := halves a
  let (bHigh, bLow) := halves b
  let missing := value - aHigh * bHigh - aLow * bHigh - aHigh * bLow
  ⟨value, aLow * bLow - missing⟩

/-- The difference of two rounded results as a sum of doubles, the least of them first. -/
def minus (a b : Rounded) : List Float :=
  let last := difference a.error b.error
  let middle := sum a.value last.value
  let next := difference middle.error b.value
  let first := sum middle.value next.value
  [last.error, next.error, first.error, first.value]

end Rounded

/-- A sum of doubles, added from left to right and rounded at every step. -/
def roundedSum : List Float → Float
  | [] => 0
  | first :: rest => rest.foldl (· + ·) first

/-- The sign of a sum of doubles by their exact values; zero if one of them is not finite. -/
def signOfSum (terms : List Float) : Int :=
  match terms.mapM dyadic? with
  | none => 0
  | some terms =>
    let low := terms.foldl (fun low d => min low d.exponent) 0
    let whole : List Int := terms.map fun d => d.scaled low
    (whole.foldl (· + ·) 0).sign

end DemandRide.Binary64
