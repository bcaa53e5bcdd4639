import GuestBridge.Number.Double
import GuestBridge.Number.Decimal
/-!
# The shortest decimal that reads back

Every real number nearer to a double than to any other reads back as that double; these numbers
form an interval, which holds its ends exactly when the significand is even. The shortest decimal
is a point of that interval on the coarsest decimal grid that has one, and of two such points the
nearer to the double, the upper one on a tie.

All comparisons are between natural numbers: the double and the ends of its interval are counted in
quarters of the last place.
-/

namespace GuestBridge.Double

/-- The interval that reads back as a double, in quarters of its last place. -/
structure Interval where
  lower : Nat
  value : Nat
  upper : Nat
  /-- The ends belong to the interval. -/
  closed : Bool

/-- Just above a power of two the lower neighbour is half as far as the upper one. -/
def interval (x : Double) : Interval where
  lower := 4 * x.significand - (if x.fraction = 0 ∧ 1 < x.biasedExponent then 1 else 2)
  value := 4 * x.significand
  upper := 4 * x.significand + 2
  closed := x.significand % 2 == 0

/-- `a / b` quarters of the last place make one step of the grid `10 ^ k`, as a quotient. -/
def quartersPerStep (x : Double) (k : Int) : Nat × Nat :=
  let q := x.exponent - 2
  (powerOfTen k.toNat * powerOfTwo (-q).toNat, powerOfTen (-k).toNat * powerOfTwo q.toNat)

/-- The point of the grid `10 ^ k` that reads back as `x`, the nearer of two. -/
def gridPoint? (x : Double) (k : Int) : Option Nat :=
  let i := x.interval
  let (num, den) := x.quartersPerStep k
  let below := i.value * den / num
  let inside (d : Nat) : Bool :=
    if i.closed then i.lower * den ≤ d * num && d * num ≤ i.upper * den
    else i.lower * den < d * num && d * num < i.upper * den
  let nearerBelow : Bool := i.value * den - below * num < (below + 1) * num - i.value * den
  match inside below, inside (below + 1) with
  | true, true => some (if nearerBelow then below else below + 1)
  | true, false => some below
  | false, true => some (below + 1)
  | false, false => none

/-- The power of ten of the leading digit of a positive finite double: `10 ^ 400` brings every
double above one. -/
def leadingPower (x : Double) : Int :=
  let (num, den) := x.magnitude
  ((Decimal.digits (num * powerOfTen 400 / den)).length : Int) - 401

/-- The shortest decimal that reads back as a positive finite double: seventeen digits always do. -/
def shortest (x : Double) : Decimal :=
  let power := x.leadingPower
  let found := (List.range 17).findSome? fun (n : Nat) =>
    let k := power - (n : Int)
    (x.gridPoint? k).map fun d => (⟨d, k⟩ : Decimal)
  (found.getD ⟨0, 0⟩).normalize

/-- The text of a double: the shortest digits that read back, never an exponent. -/
def text (x : Double) : String :=
  if x.isNaN then "NaN"
  else
    let sign := if x.isNegative then "-" else ""
    if x.isInfinite then sign ++ "inf"
    else if x.isZero then sign ++ "0"
    else sign ++ x.shortest.positional

end GuestBridge.Double
