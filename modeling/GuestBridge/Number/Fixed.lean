import GuestBridge.Number.Expansion
import GuestBridge.Number.Shortest
/-!
# Fixed-point text

A double with a given number of fractional digits: its exact expansion is rounded to them, a tie
away from zero. From `10 ^ 21` on the shortest digits are written with an exponent instead.
-/

namespace GuestBridge.Double

/-- Fractional digits are limited to a hundred, and a negative request asks for none. -/
def fixedPlaces (requested : Int32) : Nat := min requested.toInt.toNat 100

/-- The magnitude is at least `10 ^ 21`. -/
def isHuge (x : Double) : Bool :=
  let (num, den) := x.magnitude
  powerOfTen 21 * den ≤ num

/-- Enough fractional digits to write any finite double exactly. -/
def exactPlaces : Nat := 1100

/-- The exact expansion of the magnitude of a finite double. -/
def expansion (x : Double) : Expansion :=
  let (num, den) := x.magnitude
  .ofQuotient num den exactPlaces

/-- Fixed-point text with the requested number of fractional digits. A negative number keeps its
sign when it rounds to zero, negative zero has none. -/
def fixed (x : Double) (requested : Int32) : String :=
  if x.isNaN then "NaN"
  else
    let sign := if x.isNegative && !x.isZero then "-" else ""
    if x.isInfinite then sign ++ "Infinity"
    else if x.isHuge then sign ++ x.shortest.scientific "e+"
    else sign ++ (x.expansion.rounded (fixedPlaces requested)).text

end GuestBridge.Double
